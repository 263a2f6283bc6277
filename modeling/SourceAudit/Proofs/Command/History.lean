import Mathlib.Data.List.Nodup
import SourceAudit.Command.History
import SourceAudit.Proofs.Files.Tree
import SourceAudit.Proofs.Store.Storable

/-!
# Audits that are chosen by the start of their identity

The history command shows or deletes the audit of a repository whose identity starts as a text tells. It
looks among the audits of the repository, and deletes by the whole identity.

On a host that serves the file of the store, it succeeds exactly if the text is not blank and there is
one such audit. Then the audit and its violations are all that is deleted; otherwise the number of such
audits is told and the file stays as it is. To show an audit changes nothing (`run_chosen`).
-/

namespace SourceAudit

/-! ### Audits that a text tells -/

/-- The start of an identity that a text tells, letter case and white space around it aside. -/
def toldStart (text : String) : List Char :=
  (Text.trim text.toList).map Text.asciiLower

namespace Store

/-- The audits of a repository whose identities start in this way. -/
def startingWith (s : Store) (repositoryId : String) (start : List Char) : List Audit :=
  s.audits.filter fun a => a.repositoryId == repositoryId && start.isPrefixOf a.id.toList

/-- The store without an audit and its violations. -/
def without (s : Store) (audit : Audit) : Store :=
  { s with
    audits := s.audits.erase audit
    violations := s.violations.filter (·.auditId != audit.id) }

variable {s : Store} {repositoryId text : String} {audit : Audit}

/-- A text that is not blank tells audits of the repository by their start, and a blank one none. -/
theorem filter_auditsOf (s : Store) (repositoryId : String) (start : List Char) :
    ((s.auditsOf repositoryId).filter fun a => !start.isEmpty && start.isPrefixOf a.id.toList) =
      if start = [] then [] else (s.startingWith repositoryId start).reverse := by
  rw [auditsOf, startingWith, List.filter_filter, List.filter_reverse]
  split
  · rename_i h
    subst h
    simp
  · rename_i h
    have hempty : start.isEmpty = false := by simpa using h
    simp only [hempty, Bool.not_false, Bool.true_and, Bool.and_comm]

/-- An audit is found if it is the only one that the text tells. -/
theorem findAudit_of_told (hstart : toldStart text ≠ [])
    (hone : s.startingWith repositoryId (toldStart text) = [audit]) :
    findAudit (s.auditsOf repositoryId) text = .ok audit := by
  rw [findAudit, ← toldStart, filter_auditsOf, if_neg hstart, hone]
  rfl

/-- Otherwise the number of audits is told. -/
theorem findAudit_of_not_told (h : ¬ (toldStart text ≠ [] ∧
      (s.startingWith repositoryId (toldStart text)).length = 1)) :
    findAudit (s.auditsOf repositoryId) text =
      .error (.ambiguousId (String.ofList (toldStart text))
        (if toldStart text = [] then 0
          else (s.startingWith repositoryId (toldStart text)).length)) := by
  rw [findAudit, ← toldStart, filter_auditsOf]
  by_cases hblank : toldStart text = []
  · rw [if_pos hblank, if_pos hblank]
    rfl
  · rw [if_neg hblank, if_neg hblank]
    rw [← List.length_reverse] at h ⊢
    generalize (s.startingWith repositoryId (toldStart text)).reverse = matching at h ⊢
    rcases matching with _ | ⟨first, _ | ⟨next, rest⟩⟩
    · rfl
    · exact absurd ⟨hblank, rfl⟩ h
    · rfl

/-- Where identities are distinct, to drop an audit by its identity drops this audit alone. -/
theorem afterDelete_eq_without (hdistinct : (s.audits.map (·.id)).Nodup) (haudit : audit ∈ s.audits) :
    s.afterDelete audit.id = s.without audit := by
  have haudits : s.audits.filter (·.id != audit.id) = s.audits.erase audit := by
    rw [(List.Nodup.of_map _ hdistinct).erase_eq_filter]
    refine List.filter_congr fun other hother => ?_
    have hsame : other.id = audit.id ↔ other = audit :=
      ⟨fun h => List.inj_on_of_nodup_map hdistinct hother haudit h, congrArg Audit.id⟩
    rw [Bool.eq_iff_iff, bne_iff_ne, bne_iff_ne, Ne, Ne, hsame]
  rw [afterDelete, haudits, without]

end Store

/-! ### Hosts beside a store -/

namespace Host

variable {n : Type → Type} [Monad n] {σ : Type}

/-- A host beside a state that it leaves alone. -/
def beside (host : Host n) : Host (StateT σ n) where
  files := host.files.beside
  transport request := StateT.lift (host.transport request)
  clock := StateT.lift host.clock
  environment name := StateT.lift (host.environment name)
  home := host.home
  inColor := host.inColor
  say text := StateT.lift (host.say text)
  note text := StateT.lift (host.note text)

/-- What a source is about is looked up beside the state. -/
theorem target_beside [LawfulMonad n] (host : Host n) (source : Source) :
    (host.beside (σ := σ)).target source = StateT.lift (host.target source) := by
  rcases source with reference | checkout
  · exact (lift_pure _).symm
  · have hpath : Target.ofPath (host.beside (σ := σ)).files checkout =
        StateT.lift (Target.ofPath host.files checkout) := by
      rw [Target.ofPath, Target.ofPath, lift_bind]
      refine bind_congr fun answer => ?_
      rcases answer with e | canonical
      · exact (lift_pure _).symm
      · exact (lift_pure _).symm
    rw [target, target, hpath, lift_bind]
    exact bind_congr fun answer => (lift_pure _).symm

end Host

/-! ### Hosts that serve a store -/

section Serving

variable {W : Type}

/-- An act in sound surroundings leaves them sound, and leaves the file at a path as it is. -/
def LeavesFile {α : Type} (path : String) (sound : W → Prop) (held : W → String → Option Bytes)
    (act : StateM W α) : Prop :=
  ∀ w, sound w → sound (act.run w).2 ∧ held (act.run w).2 path = held w path

/-- What a store in a file needs of a host: its files serve the store, and messages and the look-up of a
checkout leave the file as it is. -/
structure Host.Serves (host : Host (StateM W)) (path : String) (sound : W → Prop)
    (held : W → String → Option Bytes) : Prop where
  files : StoreFile.Serves host.files path sound held
  canonical : ∀ checkout, LeavesFile path sound held (host.files.canonical checkout)
  say : ∀ text, LeavesFile path sound held (host.say text)
  note : ∀ text, LeavesFile path sound held (host.note text)

variable {host : Host (StateM W)} {path : String} {sound : W → Prop}
  {held : W → String → Option Bytes}

theorem LeavesFile.pure {α : Type} (a : α) : LeavesFile path sound held (pure a : StateM W α) :=
  fun _ hsound => ⟨hsound, rfl⟩

theorem LeavesFile.bind {α β : Type} {act : StateM W α} {next : α → StateM W β}
    (h : LeavesFile path sound held act) (hnext : ∀ a, LeavesFile path sound held (next a)) :
    LeavesFile path sound held (act >>= next) := by
  intro w hsound
  obtain ⟨hsound', hheld'⟩ := h w hsound
  obtain ⟨hsound'', hheld''⟩ := hnext (act.run w).1 _ hsound'
  exact ⟨hsound'', hheld''.trans hheld'⟩

/-- To find out what a source is about leaves the file as it is. -/
theorem Host.Serves.target (h : host.Serves path sound held) (source : Source) :
    LeavesFile path sound held (host.target source) := by
  rcases source with reference | checkout
  · exact .pure _
  · refine .bind (.bind (h.canonical checkout) fun answer => ?_) fun _ => .pure _
    rcases answer with e | canonical
    · exact .pure _
    · exact .pure _

end Serving

/-! ### The command -/

namespace HistoryArguments

variable {W : Type} {host : Host (StateM W)} {a : HistoryArguments} {settings : Settings}
  {sound : W → Prop} {held : W → String → Option Bytes} {s : Store} {repository : Repository} {w : W}

/-- The path of the file of the store. -/
def storePath (host : Host (StateM W)) (a : HistoryArguments) (settings : Settings) : String :=
  (a.override settings).storePath host.home

/-- The command is run where a host serves the file of a store whose audits have distinct, well-formed
identities, and the source is about a repository that is recorded there. -/
structure FindsRepository (host : Host (StateM W)) (a : HistoryArguments) (settings : Settings)
    (sound : W → Prop) (held : W → String → Option Bytes) (s : Store) (repository : Repository)
    (w : W) : Prop where
  serves : host.Serves (a.storePath host settings) sound held
  sound : sound w
  storable : s.Storable
  file : StoreFile.StandsFor (held w (a.storePath host settings)) s
  distinct : (s.audits.map (·.id)).Nodup
  wellFormed : ∀ audit ∈ s.audits, Validation.id "audit_id" audit.id = .ok ()
  recorded : ∃ target, ((host.target a.source).run w).1 = .ok target ∧
    s.repository? (repositoryId target.owner target.name) = some repository

/-- The store in the file, as the command uses it. -/
def gateway (host : Host (StateM W)) (a : HistoryArguments) (settings : Settings) :
    Gateway (StateT Store (StateM W)) :=
  StoreFile.gateway host.files.beside (a.storePath host settings) (StateT.lift host.clock)

/-- The command comes to its request, with the audits of the repository. -/
theorem FindsRepository.run_eq (h : a.FindsRepository host settings sound held s repository w)
    (memory : Store) :
    ∃ w', sound w' ∧ held w' (a.storePath host settings) = held w (a.storePath host settings) ∧
      ((a.run host.beside settings).run memory).run w =
        (((a.handle host.beside (a.gateway host settings) repository (s.auditsOf repository.id)) >>=
          fun done => pure (done.map fun () => ExitStatus.success)).run s).run w' := by
  -- The source is looked up and the store opened; then the store is asked for the repository and for
  -- its audits.
  obtain ⟨target, htarget, hfound⟩ := h.recorded
  obtain ⟨hsound₁, hheld₁⟩ := h.serves.target a.source w h.sound
  have hlooked : ((host.beside.target a.source : StateT Store (StateM W) _).run memory).run w =
      ((.ok target, memory), ((host.target a.source).run w).2) := by
    rw [Host.target_beside, ← htarget]
    rfl
  obtain ⟨w', hload, hsound', hheld'⟩ :=
    h.serves.files.run_load hsound₁ h.storable (hheld₁ ▸ h.file)
  have hopened : ((host.beside.openStoreFile (a.override settings) :
      StateT Store (StateM W) _).run memory).run ((host.target a.source).run w).2 =
        ((.ok (a.gateway host settings), s), w') := by
    have hreopened : ((StoreFile.reopen host.files.beside (a.storePath host settings) :
        StateT Store (StateM W) _).run memory).run ((host.target a.source).run w).2 =
          ((.ok (), s), w') := by
      rw [StoreFile.run_reopen, run_bind_of_eq hload]
      rfl
    rw [StoreFile.openStoreFile_eq]
    exact run_bind_of_run hreopened
  have hasked : (((a.gateway host settings).repository? (repositoryId target.owner target.name)).run
      s).run w' = ((.ok (some repository), s), w') := by
    rw [← hfound]
    rfl
  have hlisted : (((a.gateway host settings).listAudits repository.id).run s).run w' =
      ((.ok (s.auditsOf repository.id), s), w') := rfl
  refine ⟨w', hsound', hheld'.trans hheld₁, ?_⟩
  rw [run, run_bind_of_run hlooked]
  dsimp only
  rw [run_bind_of_run hopened]
  dsimp only
  rw [run_bind_of_run hasked]
  dsimp only
  rw [run_bind_of_run hlisted]

variable {text : String} {audit : Audit}

/-- To delete the audit that is found takes it and its violations from the store and from the file. -/
theorem FindsRepository.run_delete (h : a.FindsRepository host settings sound held s repository w)
    (memory : Store) (hrequest : a.request = .delete text)
    (hfind : findAudit (s.auditsOf repository.id) text = .ok audit) (haudit : audit ∈ s.audits) :
    ∃ w', sound w' ∧ held w' (a.storePath host settings) = some (s.without audit).document ∧
      ((a.run host.beside settings).run memory).run w =
        ((.ok .success, s.without audit), w') := by
  obtain ⟨w₁, hsound₁, -, hrun⟩ := h.run_eq memory
  obtain ⟨w₂, hsave, hsound₂, hheld₂⟩ := h.serves.files.run_save hsound₁ (s.without audit)
  -- The identity is well-formed and there, so the store does not refuse it.
  have hdelete : Store.runOn (Store.deleteAudit audit.id) s = (.ok true, s.without audit) := by
    have hsome : (s.audit? audit.id).isSome = true :=
      List.find?_isSome.2 ⟨audit, haudit, beq_self_eq_true _⟩
    refine Store.deleteAudit_ok_iff.2 ⟨h.wellFormed audit haudit, hsome.symm, ?_⟩
    rw [if_pos hsome, Store.afterDelete_eq_without h.distinct haudit]
  have hdeleted : (((a.gateway host settings).deleteAudit audit.id).run s).run w₁ =
      ((.ok true, s.without audit), w₂) := by
    have hchange : (a.gateway host settings).deleteAudit audit.id = StoreFile.changeSaved
        host.files.beside (a.storePath host settings) (Store.deleteAudit audit.id) := rfl
    rw [hchange, StoreFile.run_changeSaved, hdelete]
    dsimp only
    rw [run_bind_of_eq hsave]
    rfl
  have hnote : LeavesFile (a.storePath host settings) sound held
      (host.noteWith .green "Success:" ("Deleted audit " ++ host.named audit.id)) :=
    h.serves.note _
  obtain ⟨hsound₃, hheld₃⟩ := hnote w₂ hsound₂
  refine ⟨_, hsound₃, hheld₃.trans hheld₂, ?_⟩
  rw [hrun, handle, hrequest]
  dsimp only
  rw [delete, hfind]
  dsimp only
  rw [bind_assoc, run_bind_of_run hdeleted]
  rfl

/-- To show the audit that is found says it with its violations, and changes nothing. -/
theorem FindsRepository.run_show (h : a.FindsRepository host settings sound held s repository w)
    (memory : Store) (hrequest : a.request = .show text)
    (hfind : findAudit (s.auditsOf repository.id) text = .ok audit) :
    ∃ w₁ w', w' = ((host.say (renderOne host.inColor repository audit (s.violationsOf audit.id)
        a.format ++ "\n")).run w₁).2 ∧
      sound w' ∧ held w' (a.storePath host settings) = held w (a.storePath host settings) ∧
      ((a.run host.beside settings).run memory).run w = ((.ok .success, s), w') := by
  obtain ⟨w₁, hsound₁, hheld₁, hrun⟩ := h.run_eq memory
  obtain ⟨hsound', hheld'⟩ := h.serves.say (renderOne host.inColor repository audit
    (s.violationsOf audit.id) a.format ++ "\n") w₁ hsound₁
  refine ⟨w₁, _, rfl, hsound', hheld'.trans hheld₁, ?_⟩
  rw [hrun, handle, hrequest]
  dsimp only
  rw [showOne, hfind]
  rfl

/-- Where no audit is found, nothing is asked of the store, so that nothing changes. -/
theorem FindsRepository.run_of_error (h : a.FindsRepository host settings sound held s repository w)
    (memory : Store) (hrequest : a.request = .delete text ∨ a.request = .show text) {e : AuditError}
    (hfind : findAudit (s.auditsOf repository.id) text = .error e) :
    ∃ w', sound w' ∧ held w' (a.storePath host settings) = held w (a.storePath host settings) ∧
      ((a.run host.beside settings).run memory).run w = ((.error e, s), w') := by
  obtain ⟨w', hsound', hheld', hrun⟩ := h.run_eq memory
  refine ⟨w', hsound', hheld', ?_⟩
  rcases hrequest with hdelete | hshow
  · rw [hrun, handle, hdelete]
    dsimp only
    rw [delete, hfind]
    rfl
  · rw [hrun, handle, hshow]
    dsimp only
    rw [showOne, hfind]
    rfl

/-- The command, told to delete or to show an audit, succeeds exactly if the text is not blank and one
audit of the repository has an identity that starts with it, letter case and white space around it aside.
To delete takes this audit and its violations from the store and its file, and nothing else; to show says
it with its violations, and changes nothing. Otherwise the number of such audits is told, which is zero
for a blank text, and the store and its file stay as they are. -/
theorem run_chosen (h : a.FindsRepository host settings sound held s repository w) (memory : Store)
    {text : String} (hrequest : a.request = .delete text ∨ a.request = .show text) :
    let start := toldStart text
    let matching := s.startingWith repository.id start
    let path := a.storePath host settings
    ∃ answer s' w', ((a.run host.beside settings).run memory).run w = ((answer, s'), w') ∧
      sound w' ∧ (answer = .ok .success ↔ start ≠ [] ∧ matching.length = 1) ∧
      (∀ audit, start ≠ [] → matching = [audit] →
        (a.request = .delete text →
          s' = s.without audit ∧ held w' path = some (s.without audit).document) ∧
        (a.request = .show text → s' = s ∧ held w' path = held w path ∧
          ∃ w₁, w' = ((host.say (renderOne host.inColor repository audit (s.violationsOf audit.id)
            a.format ++ "\n")).run w₁).2)) ∧
      (¬ (start ≠ [] ∧ matching.length = 1) →
        answer = .error (.ambiguousId (String.ofList start)
          (if start = [] then 0 else matching.length)) ∧ s' = s ∧ held w' path = held w path) := by
  intro start matching path
  by_cases htold : start ≠ [] ∧ matching.length = 1
  · obtain ⟨audit, hone⟩ := List.length_eq_one_iff.1 htold.2
    have hfind : findAudit (s.auditsOf repository.id) text = .ok audit :=
      Store.findAudit_of_told htold.1 hone
    have haudit : audit ∈ s.audits := by
      have hmem : audit ∈ matching := hone ▸ List.mem_singleton_self audit
      exact (List.mem_filter.1 hmem).1
    have hunique : ∀ {other : Audit}, matching = [other] → other = audit := fun hother =>
      (List.cons.inj (hother.symm.trans hone)).1
    rcases hrequest with hdelete | hshow
    · obtain ⟨w', hsound', hheld', hrun⟩ := h.run_delete memory hdelete hfind haudit
      refine ⟨_, _, w', hrun, hsound', iff_of_true rfl htold, fun other _ hother => ?_,
        fun hnot => absurd htold hnot⟩
      rw [hunique hother, hdelete]
      exact ⟨fun _ => ⟨rfl, hheld'⟩, nofun⟩
    · obtain ⟨w₁, w', hsaid, hsound', hheld', hrun⟩ := h.run_show memory hshow hfind
      refine ⟨_, _, w', hrun, hsound', iff_of_true rfl htold, fun other _ hother => ?_,
        fun hnot => absurd htold hnot⟩
      rw [hunique hother, hshow]
      exact ⟨nofun, fun _ => ⟨rfl, hheld', w₁, hsaid⟩⟩
  · obtain ⟨w', hsound', hheld', hrun⟩ :=
      h.run_of_error memory hrequest (Store.findAudit_of_not_told htold)
    exact ⟨_, _, w', hrun, hsound', iff_of_false nofun htold, fun audit hstart hone =>
      absurd ⟨hstart, congrArg List.length hone⟩ htold, fun _ => ⟨rfl, rfl, hheld'⟩⟩

/-! ### A store in a tree -/

/-- A host on a tree of files whose messages nobody reads. -/
def treeHost : Host (StateM FileTree) where
  files := FileTree.files
  transport := fun _ => pure (.error (.unreachable "no transport is available"))
  clock := pure ⟨0, 0, 0⟩
  environment := fun _ => pure none
  home := none
  inColor := false
  say := fun _ => pure ()
  note := fun _ => pure ()

/-- A repository. -/
def toolRepository : Repository :=
  ⟨repositoryId "acme" "tool", "acme", "tool", "https://github.com/acme/tool", ⟨0, 0, 0⟩, ⟨0, 0, 0⟩⟩

/-- An audit of the repository with this identity. -/
def toolAudit (id : String) : Audit where
  id := id
  repositoryId := toolRepository.id
  startedAt := ⟨0, 0, 0⟩

/-- Three of its audits. -/
def audit₁ : Audit := toolAudit "ab11111111111111111111111111111111111111111111111111111111111111"
def audit₂ : Audit := toolAudit "ab22222222222222222222222222222222222222222222222222222222222222"
def audit₃ : Audit := toolAudit "cd33333333333333333333333333333333333333333333333333333333333333"

/-- A store with the three. -/
def toolStore : Store where
  repositories := [toolRepository]
  audits := [audit₁, audit₂, audit₃]
  sequence := 3

/-- A tree with the file of the store. -/
def toolTree : FileTree where
  entries := [(["store.json"], .file toolStore.document)]

/-- A request to delete an audit there. -/
def deletion (text : String) : HistoryArguments where
  source := .repository "acme/tool"
  request := .delete text
  store := some "store.json"

theorem storePath_deletion (text : String) :
    (deletion text).storePath treeHost {} = "store.json" := by
  rw [storePath, Settings.storePath]
  · rfl
  · exact fun _ _ _ hhome => nomatch hhome

theorem exists_toolAudit {audit : Audit} (h : audit ∈ toolStore.audits) :
    ∃ id, audit = toolAudit id := by
  simp only [toolStore, List.mem_cons, List.not_mem_nil, or_false] at h
  rcases h with rfl | rfl | rfl <;> exact ⟨_, rfl⟩

theorem findsRepository_deletion (text : String) :
    (deletion text).FindsRepository treeHost {} (FileTree.IsSound "store.json") FileTree.held
      toolStore toolRepository toolTree where
  serves := by
    have hname : FileTree.IsName "store.json" :=
      ⟨by decide, by decide, by decide, by decide, by decide, by decide⟩
    have htemporary : FileTree.IsName (StoreFile.temporaryPath "store.json") :=
      ⟨by decide, by decide, by decide, by decide, by decide, by decide⟩
    rw [storePath_deletion]
    exact ⟨FileTree.serves hname htemporary (by decide) (by decide), fun _ _ hsound => ⟨hsound, rfl⟩,
      fun _ => .pure _, fun _ => .pure _⟩
  sound := ⟨rfl, .inr ⟨toolStore.document, rfl⟩, .inl (by decide)⟩
  storable := by
    have hstart : (⟨0, 0, 0⟩ : Instant).IsValid := by decide
    have hzero : 0 < Decimal.wordCount := by decide
    refine ⟨List.forall_mem_singleton.2 ⟨hstart, hstart⟩, fun audit haudit => ?_,
      List.forall_mem_nil _, by decide⟩
    obtain ⟨id, rfl⟩ := exists_toolAudit haudit
    exact ⟨hzero, hzero, hzero, hstart, nofun⟩
  file := by
    rw [storePath_deletion]
    exact .inr rfl
  distinct := by decide
  wellFormed := by decide
  recorded := ⟨⟨"acme", "tool", "https://github.com/acme/tool"⟩, rfl, by
    simp [toolStore, toolRepository, Store.repository?]⟩

theorem startingWith_toolStore (start : List Char) :
    toolStore.startingWith toolRepository.id start =
      toolStore.audits.filter fun audit => start.isPrefixOf audit.id.toList := by
  refine List.filter_congr fun audit haudit => ?_
  obtain ⟨id, rfl⟩ := exists_toolAudit haudit
  exact (congrArg (· && _) (beq_self_eq_true _)).trans (Bool.true_and _)

/-- One of the audits is deleted by the start of its identity, and the start of the two others tells
neither. -/
theorem run_chosen_deletion :
    (∃ w', (((deletion " CD ").run treeHost.beside {}).run toolStore).run toolTree =
        ((.ok .success, toolStore.without audit₃), w') ∧
      w'.held "store.json" = some (toolStore.without audit₃).document) ∧
      ∃ w', (((deletion "ab").run treeHost.beside {}).run toolStore).run toolTree =
          ((.error (.ambiguousId "ab" 2), toolStore), w') ∧
        w'.held "store.json" = some toolStore.document := by
  constructor
  · have hstart : toldStart " CD " = "cd".toList := by decide +kernel
    have hmatching : toolStore.startingWith toolRepository.id "cd".toList = [audit₃] := by
      have h₁ : "cd".toList.isPrefixOf audit₁.id.toList = false := by decide
      have h₂ : "cd".toList.isPrefixOf audit₂.id.toList = false := by decide
      have h₃ : "cd".toList.isPrefixOf audit₃.id.toList = true := by decide
      rw [startingWith_toolStore]
      simp only [toolStore, List.filter_cons, h₁, h₂, h₃, Bool.false_eq_true, if_false, if_true,
        List.filter_nil]
    obtain ⟨answer, s', w', hrun, -, hanswer, hone, -⟩ :=
      run_chosen (findsRepository_deletion " CD ") toolStore (.inl rfl)
    rw [hstart, hmatching] at hanswer hone
    obtain ⟨rfl, hheld⟩ := (hone audit₃ (by decide) rfl).1 rfl
    obtain rfl := hanswer.2 ⟨by decide, rfl⟩
    rw [storePath_deletion] at hheld
    exact ⟨w', hrun, hheld⟩
  · have hstart : toldStart "ab" = "ab".toList := by decide +kernel
    have hmatching : toolStore.startingWith toolRepository.id "ab".toList = [audit₁, audit₂] := by
      have h₁ : "ab".toList.isPrefixOf audit₁.id.toList = true := by decide
      have h₂ : "ab".toList.isPrefixOf audit₂.id.toList = true := by decide
      have h₃ : "ab".toList.isPrefixOf audit₃.id.toList = false := by decide
      rw [startingWith_toolStore]
      simp only [toolStore, List.filter_cons, h₁, h₂, h₃, Bool.false_eq_true, if_false, if_true,
        List.filter_nil]
    obtain ⟨answer, s', w', hrun, -, -, -, hother⟩ :=
      run_chosen (findsRepository_deletion "ab") toolStore (.inl rfl)
    rw [hstart, hmatching] at hother
    obtain ⟨rfl, rfl, hheld⟩ := hother fun h => absurd h.2 (by decide)
    rw [storePath_deletion] at hheld
    exact ⟨w', hrun, hheld⟩

end HistoryArguments

end SourceAudit
