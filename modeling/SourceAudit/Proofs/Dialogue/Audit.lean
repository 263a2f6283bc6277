import SourceAudit.Audit.Run
import SourceAudit.Proofs.Dialogue.Conduct

/-!
# An audit is a dialogue

An audit uses its provider and its store in no other way than by calls: in any surroundings it is
the dialogue that it is over the provider and the store that ask for everything (`conduct_run`). The
lemmas before that say so of its parts.
-/

namespace SourceAudit.Dialogue

variable {m : Type → Type} [Monad m] [LawfulMonad m] {p : Provider m} {g : Gateway m}
variable {ρ σ : Type}

@[simp] theorem conduct_fetchFrom (owner repo path : String) (last : Option ProviderError)
    (branches : List String) :
    (provider.fetchFrom owner repo path last branches).conduct p g =
      p.fetchFrom owner repo path last branches := by
  induction branches generalizing last with
  | nil => cases last <;> rfl
  | cons branch rest ih =>
    simp only [Provider.fetchFrom, conduct_bind, conduct_fetch]
    refine bind_congr fun answer => ?_
    rcases answer with e | _ | content <;> simp [ih]

@[simp] theorem conduct_fetchAny (owner repo path : String) (branches : List String) :
    (provider.fetchAny owner repo path branches).conduct p g =
      p.fetchAny owner repo path branches :=
  conduct_fetchFrom ..

theorem conduct_locateFrom (owner repo : String) (branches tried : List String)
    (last : Option ProviderError) (names : List String) :
    (Manifest.locateFrom provider owner repo branches tried last names).conduct p g =
      Manifest.locateFrom p owner repo branches tried last names := by
  induction names generalizing last with
  | nil => cases last <;> rfl
  | cons name rest ih =>
    simp only [Manifest.locateFrom, conduct_bind, conduct_fetchAny]
    refine bind_congr fun answer => ?_
    rcases answer with e | _ | content <;> simp [ih]

@[simp] theorem conduct_locate (owner repo : String) (names branches : List String) :
    (Manifest.locate provider owner repo names branches).conduct p g =
      Manifest.locate p owner repo names branches :=
  conduct_locateFrom ..

theorem conduct_level (owner repo : String) (o : WalkOptions) (w : Walk)
    (directories : List String) :
    (Walk.level provider owner repo o w directories).conduct p g =
      Walk.level p owner repo o w directories := by
  induction directories generalizing w with
  | nil => rfl
  | cons directory rest ih =>
    simp only [Walk.level, conduct_bind, conduct_list]
    refine bind_congr fun answer => ?_
    rcases answer with e | entries
    · exact ih _
    · dsimp only
      split <;> simp [ih]

theorem conduct_levels (owner repo : String) (o : WalkOptions) (depth : Nat) (w : Walk)
    (directories : List String) :
    (Walk.levels provider owner repo o depth w directories).conduct p g =
      Walk.levels p owner repo o depth w directories := by
  induction depth generalizing w directories with
  | zero => rfl
  | succ depth ih =>
    simp only [Walk.levels]
    split
    · rfl
    · simp [conduct_level, ih]

@[simp] theorem conduct_roots (owner repo : String) (o : WalkOptions) (w : Walk)
    (roots : List String) :
    (Walk.roots provider owner repo o w roots).conduct p g = Walk.roots p owner repo o w roots := by
  induction roots generalizing w with
  | nil => rfl
  | cons root rest ih =>
    simp only [Walk.roots]
    split
    · rfl
    · simp [Walk.into, conduct_levels, ih]

theorem conduct_finishNth {fetch : String → Dialogue ρ} {fetch' : String → m ρ}
    (hfetch : ∀ path, (fetch path).conduct p g = fetch' path) (k : Nat)
    (underWay : List (String × Option ρ)) :
    (Fetches.finishNth fetch k underWay).conduct p g = Fetches.finishNth fetch' k underWay := by
  induction underWay generalizing k with
  | nil => cases k <;> rfl
  | cons f rest ih =>
    rcases f with ⟨path, _ | r⟩
    · cases k <;> simp [Fetches.finishNth, hfetch, ih]
    · cases k <;> simp [Fetches.finishNth, ih]

theorem conduct_drain {fetch : String → Dialogue ρ} {fetch' : String → m ρ}
    {take : σ → String → ρ → Dialogue σ} {take' : σ → String → ρ → m σ}
    (hfetch : ∀ path, (fetch path).conduct p g = fetch' path)
    (htake : ∀ s path r, (take s path r).conduct p g = take' s path r)
    (limit : Nat) (schedule : Schedule) (fuel : Nat) (f : Fetches ρ) (s : σ) :
    (Fetches.drain limit schedule fetch take fuel f s).conduct p g =
      Fetches.drain limit schedule fetch' take' fuel f s := by
  induction fuel generalizing f s with
  | zero => rfl
  | succ fuel ih =>
    simp only [Fetches.drain]
    split <;> simp [htake, conduct_finishNth hfetch, ih]

theorem conduct_fetches {fetch : String → Dialogue ρ} {fetch' : String → m ρ}
    {take : σ → String → ρ → Dialogue σ} {take' : σ → String → ρ → m σ}
    (hfetch : ∀ path, (fetch path).conduct p g = fetch' path)
    (htake : ∀ s path r, (take s path r).conduct p g = take' s path r)
    (limit : Nat) (schedule : Schedule) (start : σ) (paths : List String) :
    (Fetches.run limit schedule fetch take start paths).conduct p g =
      Fetches.run limit schedule fetch' take' start paths :=
  conduct_drain hfetch htake ..

theorem conduct_logHits (audit : Audit) (path : String) (hits : List Hit) :
    (Audit.logHits gateway audit path hits).conduct p g = Audit.logHits g audit path hits := by
  induction hits with
  | nil => rfl
  | cons h rest ih =>
    simp only [Audit.logHits, conduct_bind, conduct_logViolation]
    refine bind_congr fun answer => ?_
    rcases answer with e | v <;> simp [ih]

theorem conduct_takeFile (audit : Audit) (scanner : Scanner) (policy : Policy)
    (s : Audit.Progress) (path : String) (fetched : Except ProviderError (Option String)) :
    (Audit.takeFile gateway audit scanner policy s path fetched).conduct p g =
      Audit.takeFile g audit scanner policy s path fetched := by
  rcases fetched with e | _ | content <;> simp [Audit.takeFile, conduct_logHits]

theorem conduct_examine (options : AuditOptions) (schedule : Schedule) (target : Target)
    (repository : Repository) (audit : Audit) (manifest : Manifest) :
    (Audit.examine provider gateway options schedule target repository audit manifest).conduct p g =
      Audit.examine p g options schedule target repository audit manifest := by
  simp only [Audit.examine, conduct_bind, conduct_roots, conduct_completeAudit]
  refine bind_congr fun walk => ?_
  -- The fetches and the taking of their results are dialogues of their own.
  rw [conduct_fetches (fun path => conduct_fetchAny ..) (fun s path r => conduct_takeFile ..)]
  refine bind_congr fun progress => bind_congr fun answer => ?_
  rcases answer with e | audit <;> rfl

/-- In any surroundings an audit is the dialogue that it is over the provider and the store that ask
for everything. -/
theorem conduct_run (options : AuditOptions) (schedule : Schedule) (target : Target) :
    (Audit.run provider gateway options schedule target).conduct p g =
      Audit.run p g options schedule target := by
  simp only [Audit.run, conduct_bind, conduct_upsertRepository]
  refine bind_congr fun answer => ?_
  rcases answer with e | repository
  · rfl
  simp only [conduct_bind, conduct_createAudit]
  refine bind_congr fun answer => ?_
  rcases answer with e | audit
  · rfl
  simp only [conduct_bind, conduct_locate]
  refine bind_congr fun located => ?_
  rcases located with e | manifest
  · simp
  · exact conduct_examine ..

end SourceAudit.Dialogue
