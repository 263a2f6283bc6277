import SourceAudit.Proofs.Dialogue.Fetches
import SourceAudit.Proofs.Dialogue.Basic

/-!
# Fetches one after another

With a limit of one, or of none, fetches are under way one at a time: each file is fetched and taken
before the next one (`run_of_le_one`).

With any limit and in whatever order fetches finish, their results are those that the answers to
their calls make them (`results_eq`), and what is done with the results is done in the order of the
files. So where the answers to fetches are foreseen, a record of fetches under way is matched by one
of fetches that follow one another, and the two have everything but fetches in common
(`matched_run`).
-/

namespace SourceAudit

/-- The call is one for a file. -/
def Call.isFetch : Call → Bool
  | fetch .. => true
  | _ => false

theorem Call.isStore_of_isFetch {c : Call} (h : c.isFetch = true) : c.isStore = false := by
  cases c with
  | fetch => rfl
  | list | store => cases h

/-- The exchange is one about a file. -/
def Exchange.isFetch (e : Exchange) : Bool :=
  e.call.isFetch

theorem Exchange.isFetch_of_isStore {e : Exchange} (h : e.isStore = true) : e.isFetch = false := by
  rcases e with ⟨c, answer⟩
  cases c with
  | fetch | list => cases h
  | store => rfl

namespace Dialogue

variable {α β : Type} {answers : (c : Call) → c.Answer}

/-- The files in a record were fetched with the foreseen answers. -/
def Foreseen (answers : (c : Call) → c.Answer) (record : List Exchange) : Prop :=
  ∀ e ∈ record, e.isFetch = true → e.answer = answers e.call

theorem foreseen_append {first second : List Exchange} :
    Foreseen answers (first ++ second) ↔ Foreseen answers first ∧ Foreseen answers second :=
  List.forall_mem_append

/-- Where the answers to fetches are foreseen, whatever the first dialogue comes to, the second one
can come to as well by a record that differs in fetches only. -/
def Matched (answers : (c : Call) → c.Answer) (d d' : Dialogue α) : Prop :=
  ∀ ⦃record a⦄, d.Ends record a → Foreseen answers record →
    ∃ record', d'.Ends record' a ∧ Foreseen answers record' ∧
      record'.filter (!·.isFetch) = record.filter (!·.isFetch)

theorem Matched.refl (d : Dialogue α) : Matched answers d d :=
  fun record _ hends hanswers => ⟨record, hends, hanswers, rfl⟩

/-- Dialogues in a row are matched one by one. -/
theorem Matched.bind {d d' : Dialogue α} {f f' : α → Dialogue β} (h : Matched answers d d')
    (hf : ∀ a, Matched answers (f a) (f' a)) : Matched answers (d >>= f) (d' >>= f') := by
  intro record b hends hanswers
  obtain ⟨first, a, second, rfl, hfirst, hsecond⟩ := ends_bind_iff.1 hends
  obtain ⟨hanswers₁, hanswers₂⟩ := foreseen_append.1 hanswers
  obtain ⟨first', hfirst', hforeseen₁, hfilter₁⟩ := h hfirst hanswers₁
  obtain ⟨second', hsecond', hforeseen₂, hfilter₂⟩ := hf a hsecond hanswers₂
  refine ⟨first' ++ second', ends_bind_iff.2 ⟨first', a, second', rfl, hfirst', hsecond'⟩,
    foreseen_append.2 ⟨hforeseen₁, hforeseen₂⟩, ?_⟩
  rw [List.filter_append, List.filter_append, hfilter₁, hfilter₂]

end Dialogue

namespace Fetches

open Dialogue

variable {ρ σ : Type}

section Monad

variable {m : Type → Type} [Monad m]

/-- Fetches files and takes their results one after the other. -/
def oneByOne (fetch : String → m ρ) (take : σ → String → ρ → m σ) : σ → List String → m σ
  | s, [] => pure s
  | s, path :: rest => do oneByOne fetch take (← take s path (← fetch path)) rest

/-- The one fetch that is under way is the one that finishes. -/
theorem finishNth_one (fetch : String → m ρ) (path : String) :
    finishNth fetch 0 [(path, none)] = fetch path >>= fun r => pure [(path, some r)] :=
  rfl

variable [LawfulMonad m]

/-- One at a time, files are fetched and taken in their order. -/
theorem drain_one (schedule : Schedule) (fetch : String → m ρ) (take : σ → String → ρ → m σ)
    {fuel finished : Nat} {paths : List String} (hfuel : 2 * paths.length < fuel) (s : σ) :
    drain 1 schedule fetch take fuel ⟨[], paths, finished⟩ s = oneByOne fetch take s paths := by
  induction paths generalizing fuel finished s with
  | nil =>
    obtain ⟨fuel, rfl⟩ := Nat.exists_eq_succ_of_ne_zero (Nat.ne_of_gt hfuel)
    rfl
  | cons path rest ih =>
    -- Two steps: the fetch finishes, and its result is taken.
    obtain ⟨fuel, rfl⟩ : ∃ n, fuel = n + 2 := ⟨fuel - 2, by rw [List.length_cons] at hfuel; omega⟩
    have hrest : 2 * rest.length < fuel := by
      rw [List.length_cons] at hfuel
      omega
    have hstart : refill 1 ⟨[], path :: rest, finished⟩ =
        (⟨[(path, none)], rest, finished⟩ : Fetches ρ) := rfl
    have hfull : ∀ r, refill 1 ⟨[(path, some r)], rest, finished + 1⟩ =
        (⟨[(path, some r)], rest, finished + 1⟩ : Fetches ρ) := fun r => by simp [refill]
    have hunder : unfinished (⟨[(path, none)], rest, finished⟩ : Fetches ρ) = 1 := rfl
    rw [drain, hstart]
    dsimp only
    rw [hunder, Nat.mod_one, finishNth_one, bind_assoc, oneByOne]
    refine bind_congr fun r => ?_
    rw [pure_bind, drain]
    dsimp only
    rw [hfull]
    exact bind_congr fun s => ih hrest s

/-- With a limit of at most one, fetches follow one another, whatever the schedule. -/
theorem run_of_le_one {limit : Nat} (hlimit : limit ≤ 1) (schedule : Schedule)
    (fetch : String → m ρ) (take : σ → String → ρ → m σ) (s : σ) (paths : List String) :
    run limit schedule fetch take s paths = oneByOne fetch take s paths := by
  rw [run, Nat.max_eq_right hlimit]
  exact drain_one schedule fetch take (Nat.lt_succ_self _) s

end Monad

section Record

variable {answers : (c : Call) → c.Answer} {fetch : String → Dialogue ρ}
  {take : σ → String → ρ → Dialogue σ}
  (hfetch : ∀ path, (fetch path).Asks (·.isFetch = true))
  (htake : ∀ s path r, (take s path r).Asks (·.isStore = true))

include hfetch

/-- What is recorded besides the store, when fetches have finished, is theirs. -/
theorem isFetch_of_finished {record : List Exchange} {finished : List (Finished ρ)}
    (hfetched : record.filter (!·.isStore) = finished.flatMap (·.record))
    (hends : ∀ f ∈ finished, (fetch f.path).Ends f.record f.result) :
    ∀ e ∈ record, e.isStore = false → e.isFetch = true := by
  intro e he hstore
  have hmem : e ∈ finished.flatMap (·.record) := by
    rw [← hfetched]
    exact List.mem_filter.2 ⟨he, by simp [hstore]⟩
  obtain ⟨f, hf, he⟩ := List.mem_flatMap.1 hmem
  exact (hfetch f.path).forall_mem (hends f hf) e he

/-- The results of fetches are those that the answers to their calls make them. -/
theorem results_eq {record : List Exchange} {finished : List (Finished ρ)}
    {results : List (String × ρ)} (hanswers : Foreseen answers record)
    (hfetched : record.filter (!·.isStore) = finished.flatMap (·.record))
    (hends : ∀ f ∈ finished, (fetch f.path).Ends f.record f.result)
    (hperm : (finished.map fun f => (f.path, f.result)).Perm results) :
    results = (results.map (·.1)).map fun path => (path, (fetch path).reply answers) := by
  have hone : ∀ r ∈ results, (r.1, (fetch r.1).reply answers) = r := by
    intro r hr
    obtain ⟨f, hf, rfl⟩ := List.mem_map.1 (hperm.mem_iff.2 hr)
    have hrecord : ∀ e ∈ f.record, e.call.isFetch = true → e.answer = answers e.call := by
      intro e he
      have hmem : e ∈ record.filter (!·.isStore) := by
        rw [hfetched]
        exact List.mem_flatMap.2 ⟨f, hf, he⟩
      exact hanswers e (List.mem_of_mem_filter hmem)
    rw [← eq_reply_of_ends (hfetch f.path) hrecord (hends f hf)]
  calc
    results = results.map id := (List.map_id results).symm
    _ = results.map fun r => (r.1, (fetch r.1).reply answers) :=
      List.map_congr_left fun r hr => (hone r hr).symm
    _ = (results.map (·.1)).map fun path => (path, (fetch path).reply answers) := by
      rw [List.map_map]
      rfl

include htake

/-- Fetches that follow one another come to what taking their results comes to. -/
theorem exists_ends_oneByOne {s s' : σ} {paths : List String} {stores : List Exchange}
    (h : (takeAll take s (paths.map fun path => (path, (fetch path).reply answers))).Ends stores
      s') :
    ∃ record, (oneByOne fetch take s paths).Ends record s' ∧ Foreseen answers record ∧
      record.filter (!·.isFetch) = stores := by
  induction paths generalizing s stores with
  | nil =>
    obtain ⟨rfl, rfl⟩ := ends_done_iff.1 h
    exact ⟨[], .refl _, List.forall_mem_nil _, rfl⟩
  | cons path rest ih =>
    obtain ⟨taken, s₁, later, rfl, htaken, hlater⟩ := ends_bind_iff.1 h
    obtain ⟨record, hrecord, hforeseen, hfilter⟩ := ih hlater
    obtain ⟨fetched, hfetched, hanswers⟩ := exists_ends_reply answers (fetch path)
    have hfetches : ∀ e ∈ fetched, e.isFetch = true := (hfetch path).forall_mem hfetched
    have hstores : ∀ e ∈ taken, e.isFetch = false := fun e he =>
      Exchange.isFetch_of_isStore ((htake s path _).forall_mem htaken e he)
    refine ⟨fetched ++ (taken ++ record), ?_, ?_, ?_⟩
    · exact ends_bind_iff.2 ⟨fetched, _, _, rfl, hfetched,
        ends_bind_iff.2 ⟨taken, s₁, record, rfl, htaken, hrecord⟩⟩
    · refine foreseen_append.2 ⟨fun e he _ => hanswers e he,
        foreseen_append.2 ⟨fun e he hfetch => ?_, hforeseen⟩⟩
      rw [hstores e he] at hfetch
      cases hfetch
    · have hnone : fetched.filter (!·.isFetch) = [] :=
        List.filter_eq_nil_iff.2 fun e he => by simp [hfetches e he]
      have hall : taken.filter (!·.isFetch) = taken :=
        List.filter_eq_self.2 fun e he => by simp [hstores e he]
      rw [List.filter_append, List.filter_append, hnone, hall, hfilter, List.nil_append]

/-- Fetches under way, however many and in whatever order they finish, are matched by fetches that
follow one another. -/
theorem matched_run (limit : Nat) (schedule schedule' : Schedule) (s : σ) (paths : List String) :
    Matched answers (run limit schedule fetch take s paths) (run 1 schedule' fetch take s paths) := by
  intro record s' hends hanswers
  obtain ⟨results, finished, hpaths, htaken, hfetched, hfinished, hperm⟩ :=
    ends_run (fun path => (hfetch path).imp fun _ => Call.isStore_of_isFetch) htake limit schedule
      hends
  rw [results_eq hfetch hanswers hfetched hfinished hperm, hpaths] at htaken
  -- What is not of the fetches is of the store.
  have hrest : record.filter (!·.isFetch) = record.filter (·.isStore) := by
    refine List.filter_congr fun e he => ?_
    rcases hstore : e.isStore with _ | _
    · simp [isFetch_of_finished hfetch hfetched hfinished e he hstore]
    · simp [Exchange.isFetch_of_isStore hstore]
  rw [hrest, run_of_le_one (Nat.le_refl 1)]
  exact exists_ends_oneByOne hfetch htake htaken

end Record

end Fetches

end SourceAudit
