import Mathlib.Data.List.Perm.Basic
import SourceAudit.Audit.Fetches
import SourceAudit.Proofs.Dialogue.Basic

/-!
# The record of fetches under way

Fetches overlap, so in a record their exchanges and those of what is done with their results come in
many orders. Still the results are taken file by file (`takeAll`): what is not of the fetches in the
record is the record of that, and the rest of the record falls into one piece for each fetch
(`ends_run`).

The induction is on the fuel, which covers what is still to come: two steps for a file whose fetch
has not finished and one for a file whose fetch has.
-/

namespace SourceAudit.Fetches

open Dialogue

variable {ρ σ : Type}

/-- A fetch that has come to its end: the file, the result and the record. -/
structure Finished (ρ : Type) where
  path : String
  result : ρ
  record : List Exchange

/-- Takes results file by file. -/
def takeAll (take : σ → String → ρ → Dialogue σ) : σ → List (String × ρ) → Dialogue σ
  | s, [] => pure s
  | s, (path, r) :: rest => do takeAll take (← take s path r) rest

/-- Every file still to be taken, with its result if it is there. -/
def toTake (f : Fetches ρ) : List (String × Option ρ) :=
  f.underWay ++ f.waiting.map (·, none)

/-- The results that are there. -/
def present (files : List (String × Option ρ)) : List (String × ρ) :=
  files.filterMap fun f => f.2.map (f.1, ·)

/-- The steps until all of the files are taken. -/
def steps : List (String × Option ρ) → Nat
  | [] => 0
  | (_, none) :: rest => 2 + steps rest
  | (_, some _) :: rest => 1 + steps rest

/-- The result is one for the file, and the one that is there if one is. -/
def Fits (f : String × Option ρ) (r : String × ρ) : Prop :=
  f.1 = r.1 ∧ (f.2 = none ∨ f.2 = some r.2)

@[simp] theorem present_append (l l' : List (String × Option ρ)) :
    present (l ++ l') = present l ++ present l' :=
  List.filterMap_append

@[simp] theorem present_cons_some (path : String) (r : ρ) (l : List (String × Option ρ)) :
    present ((path, some r) :: l) = (path, r) :: present l := rfl

@[simp] theorem present_cons_none (path : String) (l : List (String × Option ρ)) :
    present ((path, none) :: l) = present l := rfl

@[simp] theorem steps_append (l l' : List (String × Option ρ)) :
    steps (l ++ l') = steps l + steps l' := by
  induction l with
  | nil => exact (Nat.zero_add _).symm
  | cons f rest ih => rcases f with ⟨path, _ | r⟩ <;> simp [steps, ih, Nat.add_assoc]

@[simp] theorem steps_cons_some (path : String) (r : ρ) (l : List (String × Option ρ)) :
    steps ((path, some r) :: l) = 1 + steps l := rfl

@[simp] theorem steps_cons_none (path : String) (l : List (String × Option ρ)) :
    steps ((path, none) :: l) = 2 + steps l := rfl

/-- A file that waits takes two steps: to be fetched and to be taken. -/
theorem steps_waiting (paths : List String) :
    steps (paths.map (·, (none : Option ρ))) = 2 * paths.length := by
  induction paths with
  | nil => rfl
  | cons path rest ih =>
    rw [List.map_cons, steps_cons_none, ih, List.length_cons]
    omega

/-- To start fetches leaves what is to be taken. -/
@[simp] theorem toTake_refill (limit : Nat) (f : Fetches ρ) :
    (f.refill limit).toTake = f.toTake := by
  simp only [toTake, refill, List.append_assoc, ← List.map_append, List.take_append_drop]

/-- As long as anything is to be taken, a fetch is under way. -/
theorem toTake_eq_nil {limit : Nat} (hlimit : 0 < limit) {f : Fetches ρ}
    (h : (f.refill limit).underWay = []) : f.toTake = [] := by
  simp only [refill, List.append_eq_nil_iff, List.map_eq_nil_iff, List.take_eq_nil_iff] at h
  obtain ⟨hu, h0 | hw⟩ := h
  · simp [hu] at h0
    omega
  · simp [toTake, hu, hw]

/-- To finish a fetch puts its result into its place. -/
theorem ends_finishNth {fetch : String → Dialogue ρ} {k : Nat}
    {files files' : List (String × Option ρ)} {record : List Exchange}
    (hk : k < (files.filter (·.2.isNone)).length)
    (h : (finishNth fetch k files).Ends record files') :
    ∃ before path after r, files = before ++ (path, none) :: after ∧
      files' = before ++ (path, some r) :: after ∧ (fetch path).Ends record r := by
  induction files generalizing k record files' with
  | nil => simp at hk
  | cons f rest ih =>
    rcases f with ⟨path, _ | r⟩
    · cases k with
      | zero =>
        simp only [finishNth, ends_bind_iff, pure_eq, ends_done_iff] at h
        obtain ⟨first, r, second, rfl, hr, rfl, rfl⟩ := h
        exact ⟨[], path, rest, r, rfl, rfl, by simpa using hr⟩
      | succ k =>
        simp only [finishNth, ends_bind_iff, pure_eq, ends_done_iff] at h
        obtain ⟨first, rest', second, rfl, hrest, rfl, rfl⟩ := h
        have hk' : k < (rest.filter (·.2.isNone)).length := by simpa using hk
        obtain ⟨before, path', after, r, rfl, rfl, hr⟩ := ih hk' hrest
        exact ⟨(path, none) :: before, path', after, r, rfl, rfl, by simpa using hr⟩
    · -- A fetch that has finished is passed over.
      have hk' : k < (rest.filter (·.2.isNone)).length := by simpa using hk
      have h' : (finishNth fetch k rest >>= fun rest' =>
          pure ((path, some r) :: rest')).Ends record files' := by
        cases k <;> simpa only [finishNth] using h
      simp only [ends_bind_iff, pure_eq, ends_done_iff] at h'
      obtain ⟨first, rest', second, rfl, hrest, rfl, rfl⟩ := h'
      obtain ⟨before, path', after, r', rfl, rfl, hr⟩ := ih hk' hrest
      exact ⟨(path, some r) :: before, path', after, r', rfl, rfl, by simpa using hr⟩

/-- A file whose fetch has not finished fits whatever its result will fit. -/
theorem forall₂_fits_of_finished {before after : List (String × Option ρ)} {path : String} {r : ρ}
    {results : List (String × ρ)}
    (h : List.Forall₂ Fits (before ++ (path, some r) :: after) results) :
    List.Forall₂ Fits (before ++ (path, none) :: after) results := by
  induction before generalizing results with
  | nil =>
    rcases h with _ | ⟨hfirst, hrest⟩
    exact .cons ⟨hfirst.1, .inl rfl⟩ hrest
  | cons f before ih =>
    rcases h with _ | ⟨hfirst, hrest⟩
    exact .cons hfirst (ih hrest)

/-- What a record of fetches comes to, where `files` are still to be taken: their results, the
record of taking them in order, and the records of the fetches that had not finished. -/
structure Drained (fetch : String → Dialogue ρ) (take : σ → String → ρ → Dialogue σ)
    (files : List (String × Option ρ)) (s : σ) (record : List Exchange) (s' : σ)
    (results : List (String × ρ)) (finished : List (Finished ρ)) : Prop where
  fits : List.Forall₂ Fits files results
  taken : (takeAll take s results).Ends (record.filter (·.isStore)) s'
  fetched : record.filter (!·.isStore) = finished.flatMap (·.record)
  ends : ∀ f ∈ finished, (fetch f.path).Ends f.record f.result
  perm : (present files ++ finished.map fun f => (f.path, f.result)).Perm results

section Record

variable {fetch : String → Dialogue ρ} {take : σ → String → ρ → Dialogue σ}

/-- The record of a dialogue that asks the store only is one with the store. -/
theorem filter_of_asks_store {α : Type} {d d' : Dialogue α} {record : List Exchange}
    (hd : d.Asks (·.isStore = true)) (h : d.Leads record d') :
    record.filter (·.isStore) = record ∧ record.filter (!·.isStore) = [] := by
  have hstore := hd.forall_mem h
  constructor
  · exact List.filter_eq_self.2 fun e he => hstore e he
  · exact List.filter_eq_nil_iff.2 fun e he => by simp [Exchange.isStore, hstore e he]

/-- The record of a dialogue that asks the provider only holds nothing of the store. -/
theorem filter_of_asks_provider {α : Type} {d d' : Dialogue α} {record : List Exchange}
    (hd : d.Asks (·.isStore = false)) (h : d.Leads record d') :
    record.filter (·.isStore) = [] ∧ record.filter (!·.isStore) = record := by
  have hprovider := hd.forall_mem h
  constructor
  · exact List.filter_eq_nil_iff.2 fun e he => by simp [Exchange.isStore, hprovider e he]
  · exact List.filter_eq_self.2 fun e he => by simp [Exchange.isStore, hprovider e he]

section Drained

variable {files before after : List (String × Option ρ)} {path : String} {r : ρ} {s s₁ s' : σ}
  {first second : List Exchange} {results : List (String × ρ)} {finished : List (Finished ρ)}

/-- The result of the first file is taken before the rest. -/
theorem Drained.after_take (hd : Drained fetch take files s₁ second s' results finished)
    (htake : (take s path r).Asks (·.isStore = true)) (hfirst : (take s path r).Ends first s₁) :
    Drained fetch take ((path, some r) :: files) s (first ++ second) s' ((path, r) :: results)
      finished := by
  obtain ⟨hstore, hprovider⟩ := filter_of_asks_store htake hfirst
  refine ⟨.cons ⟨rfl, .inr rfl⟩ hd.fits, ?_, ?_, hd.ends, hd.perm.cons _⟩
  · rw [List.filter_append, hstore]
    exact ends_bind_iff.2 ⟨first, s₁, _, rfl, hfirst, hd.taken⟩
  · rw [List.filter_append, hprovider, List.nil_append, hd.fetched]

/-- The fetch of a file finishes before the rest. -/
theorem Drained.after_finish
    (hd : Drained fetch take (before ++ (path, some r) :: after) s second s' results finished)
    (hfetch : (fetch path).Asks (·.isStore = false)) (hfirst : (fetch path).Ends first r) :
    Drained fetch take (before ++ (path, none) :: after) s (first ++ second) s' results
      (⟨path, r, first⟩ :: finished) := by
  obtain ⟨hstore, hprovider⟩ := filter_of_asks_provider hfetch hfirst
  refine ⟨forall₂_fits_of_finished hd.fits, ?_, ?_, ?_, ?_⟩
  · rw [List.filter_append, hstore, List.nil_append]
    exact hd.taken
  · rw [List.filter_append, hprovider, hd.fetched, List.flatMap_cons]
  · intro g hg
    rcases List.mem_cons.1 hg with rfl | hg
    · exact hfirst
    · exact hd.ends g hg
  · -- The result moves from among those that are there to those of the fetches.
    refine List.Perm.trans ?_ hd.perm
    simp only [present_append, present_cons_none, present_cons_some, List.map_cons,
      List.append_assoc, List.cons_append]
    refine List.Perm.append_left _ ?_
    exact List.perm_middle

end Drained

variable (hfetch : ∀ path, (fetch path).Asks (·.isStore = false))
  (htake : ∀ s path r, (take s path r).Asks (·.isStore = true))

include hfetch htake

/-- With fuel for every step all results are taken. -/
theorem ends_drain {limit : Nat} (hlimit : 0 < limit) (schedule : Schedule) {fuel : Nat}
    {f : Fetches ρ} {s s' : σ} {record : List Exchange} (hfuel : steps f.toTake < fuel)
    (h : (drain limit schedule fetch take fuel f s).Ends record s') :
    ∃ results finished, Drained fetch take f.toTake s record s' results finished := by
  induction fuel generalizing f s record with
  | zero => omega
  | succ fuel ih =>
    rw [← toTake_refill limit f] at hfuel ⊢
    simp only [drain] at h
    split at h
    · rename_i hnone
      obtain ⟨rfl, rfl⟩ := ends_done_iff.1 h
      have hnil := toTake_eq_nil hlimit hnone
      rw [toTake_refill, hnil]
      exact ⟨[], [], .nil, .refl _, rfl, by simp, .nil⟩
    · -- The result of the first file is there, and it is taken.
      rename_i path r rest hready
      simp only [ends_bind_iff] at h
      obtain ⟨first, s₁, second, rfl, hfirst, hsecond⟩ := h
      have hall : (f.refill limit).toTake =
          (path, some r) :: toTake ⟨rest, (f.refill limit).waiting, (f.refill limit).finished⟩ := by
        simp [toTake, hready]
      rw [hall, steps_cons_some] at hfuel
      obtain ⟨results, finished, hd⟩ := ih (by omega) hsecond
      rw [hall]
      exact ⟨_, _, hd.after_take (htake s path r) hfirst⟩
    · -- The first file has no result yet, and one of the fetches finishes.
      rename_i path rest hready
      simp only [ends_bind_iff] at h
      obtain ⟨first, underWay, second, rfl, hfinish, hsecond⟩ := h
      have hpos : 0 < (f.refill limit).unfinished := by simp [unfinished, hready]
      obtain ⟨before, path', after, r, hbefore, rfl, hfirst⟩ :=
        ends_finishNth (Nat.mod_lt _ hpos) hfinish
      have hall : (f.refill limit).toTake =
          before ++ (path', none) :: (after ++ (f.refill limit).waiting.map (·, none)) := by
        simp [toTake, hbefore]
      have hall' : toTake ⟨before ++ (path', some r) :: after, (f.refill limit).waiting,
          (f.refill limit).finished + 1⟩ =
          before ++ (path', some r) :: (after ++ (f.refill limit).waiting.map (·, none)) := by
        simp [toTake]
      rw [hall, steps_append, steps_cons_none] at hfuel
      obtain ⟨results, finished, hd⟩ :=
        ih (by rw [hall', steps_append, steps_cons_some]; omega) hsecond
      rw [hall'] at hd
      rw [hall]
      exact ⟨_, _, hd.after_finish (hfetch path') hfirst⟩

omit hfetch htake in
/-- Files that fit results have none yet. -/
theorem map_fst_of_fits {paths : List String} {results : List (String × ρ)}
    (h : List.Forall₂ Fits (paths.map (·, (none : Option ρ))) results) :
    results.map (·.1) = paths := by
  induction paths generalizing results with
  | nil =>
    rcases h with _ | _
    rfl
  | cons path paths ih =>
    rcases h with _ | ⟨hfirst, hrest⟩
    simp [ih hrest, ← hfirst.1]

/-- The record of fetches: there is a result for each of the files, what the record holds of the
store is the record of taking the results in order, and the rest falls into the records of the
fetches, in the order of their finishing. -/
theorem ends_run (limit : Nat) (schedule : Schedule) {s s' : σ} {paths : List String}
    {record : List Exchange} (h : (run limit schedule fetch take s paths).Ends record s') :
    ∃ (results : List (String × ρ)) (finished : List (Finished ρ)),
      results.map (·.1) = paths ∧ (takeAll take s results).Ends (record.filter (·.isStore)) s' ∧
        record.filter (!·.isStore) = finished.flatMap (·.record) ∧
        (∀ f ∈ finished, (fetch f.path).Ends f.record f.result) ∧
        (finished.map fun f => (f.path, f.result)).Perm results := by
  have hall : (toTake { waiting := paths } : List (String × Option ρ)) = paths.map (·, none) := rfl
  have hpresent : present (paths.map (·, (none : Option ρ))) = [] := by
    simp [present, List.filterMap_map]
  have hlimit : 0 < max limit 1 := by omega
  obtain ⟨results, finished, hd⟩ :=
    ends_drain hfetch htake hlimit schedule (by rw [hall, steps_waiting]; omega) h
  rw [hall] at hd
  refine ⟨results, finished, map_fst_of_fits hd.fits, hd.taken, hd.fetched, hd.ends, ?_⟩
  simpa [hpresent] using hd.perm

end Record

end SourceAudit.Fetches
