import SourceAudit.Proofs.Files.Tree
import SourceAudit.Proofs.Store.Storable

/-!
# The two stores answer alike

A store in a file that files serve answers every call as a store in memory does, also if it is
dropped and opened anew between the calls (`backends_agree`).
-/

namespace SourceAudit

/-- A step of a session with a store: a call, or the store is dropped and opened anew. -/
inductive SessionStep where
  | call (c : TimedCall)
  | reopen
deriving DecidableEq, Repr

/-- Plays a session. This gives the calls with their answers, or the error that opening the store
anew comes to. -/
def SessionStep.play {m : Type → Type} [Monad m] (gatewayAt : Instant → Gateway m)
    (reopening : m (Except StoreError Unit)) :
    List SessionStep → m (Except StoreError (List Exchange))
  | [] => pure (.ok [])
  | call c :: rest => do
    let answer ← c.call.perform (gatewayAt c.time)
    let later ← play gatewayAt reopening rest
    pure (later.map (⟨.store c.call, answer⟩ :: ·))
  | reopen :: rest => do
    match ← reopening with
    | .error e => pure (.error e)
    | .ok () => play gatewayAt reopening rest

namespace StoreFile

variable {W : Type} {files : Files (StateM W)} {path : String} {sound : W → Prop}
  {held : W → String → Option Bytes} {s : Store} {w : W}

/-- A session with the store in a file has the answers and the effect of the session with the store
in memory, and the file stands for the store afterwards. -/
theorem Serves.run_play (hfiles : Serves files path sound held) (hsound : sound w) (hs : s.Storable)
    (hfile : StandsFor (held w path) s) {session : List SessionStep}
    (hfits : ∀ c, .call c ∈ session → c.Fits) (v : W) :
    ∃ answers s' w',
      ((SessionStep.play (fun now => gateway files.beside path (pure now))
        (reopen files.beside path) session : StateT Store (StateM W) _).run s).run w =
          ((.ok answers, s'), w') ∧
      ((SessionStep.play (fun now => Gateway.inMemory (pure now)) (pure (.ok ())) session :
        StateT Store (StateM W) _).run s).run v = ((.ok answers, s'), v) ∧
      s'.Storable ∧ StandsFor (held w' path) s' := by
  induction session generalizing s w with
  | nil => exact ⟨[], s, w, rfl, rfl, hs, hfile⟩
  | cons step rest ih =>
    have hrest : ∀ c, .call c ∈ rest → c.Fits := fun c hc => hfits c (List.mem_cons_of_mem _ hc)
    cases step with
    | call c =>
      obtain ⟨w₁, hcall, h₁, hfile₁⟩ := hfiles.run_perform hsound hfile c
      have hmemory : ((c.call.perform (Gateway.inMemory (pure c.time)) :
          StateT Store (StateM W) _).run s).run v = (Store.runOn c.op s, v) := by
        rw [StoreCall.run_perform_inMemory]
        rfl
      have hnext := hs.runOn (hfits c List.mem_cons_self)
      generalize Store.runOn c.op s = outcome at hcall hmemory hfile₁ hnext
      obtain ⟨answer, next⟩ := outcome
      obtain ⟨answers, s', w', hplay, hplay', hs', hfile'⟩ := ih h₁ hnext hfile₁ hrest
      refine ⟨⟨.store c.call, answer⟩ :: answers, s', w', ?_, ?_, hs', hfile'⟩
      · rw [SessionStep.play, run_bind_of_run hcall, run_bind_of_run hplay]
        rfl
      · rw [SessionStep.play, run_bind_of_run hmemory, run_bind_of_run hplay']
        rfl
    | reopen =>
      obtain ⟨w₁, hreopen, h₁, hfile₁⟩ := hfiles.run_reopen hsound hs hfile
      obtain ⟨answers, s', w', hplay, hplay', hs', hfile'⟩ := ih h₁ hs hfile₁ hrest
      refine ⟨answers, s', w', ?_, ?_, hs', hfile'⟩
      · rw [SessionStep.play, run_bind_of_run hreopen]
        exact hplay
      · rw [SessionStep.play, pure_bind]
        exact hplay'

/-- The two stores answer alike. A session that starts without a file, its calls such as the program
can make, has the same answers and ends in the same store, whether the store is in memory or in a
file that files serve, dropped and opened anew wherever the session says; the file then stands for
the store. An operation that fails leaves every store as it is, and every store that the program can
have is read back from its document. -/
theorem backends_agree (hfiles : Serves files path sound held) (hsound : sound w)
    (habsent : held w path = none) {session : List SessionStep}
    (hfits : ∀ c, .call c ∈ session → c.Fits) :
    (∃ answers s w',
      ((SessionStep.play (fun now => gateway files.beside path (pure now))
        (reopen files.beside path) session : StateT Store (StateM W) _).run {}).run w =
          ((.ok answers, s), w') ∧
      ((SessionStep.play (fun now => Gateway.inMemory (pure now)) (pure (.ok ())) session :
        StateT Store (StateM W) _).run {}).run w = ((.ok answers, s), w) ∧
      s.Storable ∧ StandsFor (held w' path) s) ∧
    (∀ (c : TimedCall) (s s' : Store) (e : StoreError),
      Store.runOn c.op s = (.error e, s') → s' = s) ∧
    ∀ s : Store, s.Storable → Store.parse? s.render = some s :=
  ⟨hfiles.run_play hsound Store.storable_empty (.inl ⟨habsent, rfl⟩) hfits w,
    fun _ _ _ _ h => StoreCall.eq_of_runOn_error h, fun _ h => Store.parse?_render h⟩

/-- An accepted and a refused call on a store in an empty tree, which is opened anew after each. -/
theorem backends_agree_reopened :
    ∃ answers s t,
      ((SessionStep.play (fun now => gateway FileTree.files.beside "store.json" (pure now))
        (reopen FileTree.files.beside "store.json")
        [.call ⟨⟨0, 0, 0⟩, .upsertRepository "acme" "tool" "https://github.com/acme/tool"⟩, .reopen,
          .call ⟨⟨0, 1, 0⟩, .createAudit "unknown"⟩, .reopen] :
        StateT Store (StateM FileTree) _).run {}).run {} = ((.ok answers, s), t) ∧
      ((SessionStep.play (fun now => Gateway.inMemory (pure now)) (pure (.ok ()))
        [.call ⟨⟨0, 0, 0⟩, .upsertRepository "acme" "tool" "https://github.com/acme/tool"⟩, .reopen,
          .call ⟨⟨0, 1, 0⟩, .createAudit "unknown"⟩, .reopen] :
        StateT Store (StateM FileTree) _).run {}).run {} = ((.ok answers, s), {}) ∧
      s.Storable ∧ StandsFor (t.held "store.json") s := by
  have hname : FileTree.IsName "store.json" :=
    ⟨by decide, by decide, by decide, by decide, by decide, by decide⟩
  have htemporary : FileTree.IsName (temporaryPath "store.json") :=
    ⟨by decide, by decide, by decide, by decide, by decide, by decide⟩
  have hserves := FileTree.serves hname htemporary (by decide) (by decide)
  have hsound : FileTree.IsSound "store.json" {} := ⟨rfl, .inl rfl, .inl rfl⟩
  refine (backends_agree hserves hsound rfl fun c hc => ?_).1
  simp only [List.mem_cons, SessionStep.call.injEq, List.not_mem_nil, reduceCtorEq, or_false,
    false_or] at hc
  rcases hc with rfl | rfl
  · exact ⟨by decide, trivial⟩
  · exact ⟨by decide, trivial⟩

end StoreFile

end SourceAudit
