/-!
# Fetches under way

Several fetches may be under way at a time. They can finish in any order, but their results are taken
in the order of the files.
-/

namespace SourceAudit

/-- Which of the fetches under way is the next to finish, by the number of those that have finished
and the number of those that have not. -/
abbrev Schedule := (finished unfinished : Nat) → Nat

/-- The oldest fetch finishes first. -/
def Schedule.oldestFirst : Schedule := fun _ _ => 0

/-- The fetches that were started, in the order of the files, and the files that are waiting. -/
structure Fetches (ρ : Type) where
  underWay : List (String × Option ρ) := []
  waiting : List String
  finished : Nat := 0

namespace Fetches

variable {ρ σ : Type}

/-- Starts fetches until so many are under way. -/
def refill (limit : Nat) (f : Fetches ρ) : Fetches ρ :=
  let room := limit - f.underWay.length
  { f with
    underWay := f.underWay ++ (f.waiting.take room).map (·, none)
    waiting := f.waiting.drop room }

/-- The number of fetches under way that have not finished. -/
def unfinished (f : Fetches ρ) : Nat :=
  (f.underWay.filter (·.2.isNone)).length

variable {m : Type → Type} [Monad m]

/-- Finishes the fetch with this number among those that have not finished. -/
def finishNth (fetch : String → m ρ) : Nat → List (String × Option ρ) →
    m (List (String × Option ρ))
  | _, [] => pure []
  | k, (path, some r) :: rest => do
    pure ((path, some r) :: (← finishNth fetch k rest))
  | 0, (path, none) :: rest => do
    pure ((path, some (← fetch path)) :: rest)
  | k + 1, (path, none) :: rest => do
    pure ((path, none) :: (← finishNth fetch k rest))

/-- Runs fetches to their end. The fuel bounds what finishes and what is taken. -/
def drain (limit : Nat) (schedule : Schedule) (fetch : String → m ρ) (take : σ → String → ρ → m σ) :
    (fuel : Nat) → Fetches ρ → σ → m σ
  | 0, _, s => pure s
  | fuel + 1, f, s => do
    let f := f.refill limit
    match f.underWay with
    | [] => pure s
    | (path, some r) :: rest =>
      drain limit schedule fetch take fuel { f with underWay := rest } (← take s path r)
    | (_, none) :: _ =>
      let k := schedule f.finished f.unfinished % f.unfinished
      let underWay ← finishNth fetch k f.underWay
      drain limit schedule fetch take fuel { f with underWay, finished := f.finished + 1 } s

/-- Fetches files and takes the results in the order of the files, with at most `limit` fetches
under way, but at least one. -/
def run (limit : Nat) (schedule : Schedule) (fetch : String → m ρ) (take : σ → String → ρ → m σ)
    (start : σ) (paths : List String) : m σ :=
  drain (max limit 1) schedule fetch take (2 * paths.length + 1) { waiting := paths } start

end Fetches

end SourceAudit
