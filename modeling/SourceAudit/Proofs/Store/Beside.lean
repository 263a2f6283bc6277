import SourceAudit.Manifest
import SourceAudit.Store.Basic

/-!
# Beside a store

A provider knows nothing of the store that an audit writes to: what it does in its surroundings
leaves the store alone. So does what is built from it.
-/

namespace SourceAudit

/-- A provider, used in another monad. -/
def Provider.lift {m n : Type → Type} (run : {α : Type} → m α → n α) (p : Provider m) :
    Provider n where
  fetch owner repo path branch := run (p.fetch owner repo path branch)
  list owner repo path := run (p.list owner repo path)

/-- What is done in surroundings, beside a store that it leaves alone. -/
def besideStore {W α : Type} (act : StateM W α) : StateT Store (StateM W) α :=
  StateT.lift act

variable {W α β : Type}

@[simp] theorem besideStore_pure (a : α) : besideStore (W := W) (pure a) = pure a := rfl

@[simp] theorem besideStore_bind (act : StateM W α) (next : α → StateM W β) :
    besideStore (act >>= next) = besideStore act >>= fun a => besideStore (next a) := rfl

/-- What is done beside a store leaves it as it is. -/
theorem run_besideStore (act : StateM W α) (s : Store) (w : W) :
    ((besideStore act).run s).run w = (((act.run w).1, s), (act.run w).2) := rfl

/-- What comes after an act starts where the act has ended. -/
theorem run_bind_of_eq {act : StateM W α} {next : α → StateM W β} {w w' : W} {a : α}
    (h : act.run w = (a, w')) : (act >>= next).run w = (next a).run w' := by
  rw [StateT.run_bind, h]
  rfl

/-- What comes after an act beside a state starts where the act has ended. -/
theorem run_bind_of_run {S : Type} {act : StateT S (StateM W) α} {next : α → StateT S (StateM W) β}
    {s s' : S} {w w' : W} {a : α} (h : (act.run s).run w = ((a, s'), w')) :
    ((act >>= next).run s).run w = ((next a).run s').run w' := by
  rw [StateT.run_bind, StateT.run_bind, h]
  rfl

variable (p : Provider (StateM W))

theorem fetchFrom_besideStore (owner repo path : String) (last : Option ProviderError)
    (branches : List String) :
    (p.lift besideStore).fetchFrom owner repo path last branches =
      besideStore (p.fetchFrom owner repo path last branches) := by
  induction branches generalizing last with
  | nil => cases last <;> rfl
  | cons branch rest ih =>
    simp only [Provider.fetchFrom, besideStore_bind]
    refine bind_congr fun answer => ?_
    rcases answer with e | _ | content
    · exact ih _
    · exact ih _
    · rfl

theorem locateFrom_besideStore (owner repo : String) (branches tried : List String)
    (last : Option ProviderError) (names : List String) :
    Manifest.locateFrom (p.lift besideStore) owner repo branches tried last names =
      besideStore (Manifest.locateFrom p owner repo branches tried last names) := by
  induction names generalizing last with
  | nil => cases last <;> rfl
  | cons name rest ih =>
    simp only [Manifest.locateFrom, Provider.fetchAny, besideStore_bind, fetchFrom_besideStore]
    refine bind_congr fun answer => ?_
    rcases answer with e | _ | content
    · exact ih _
    · exact ih _
    · rfl

/-- A manifest is looked for beside the store. -/
theorem locate_besideStore (owner repo : String) (names branches : List String) :
    Manifest.locate (p.lift besideStore) owner repo names branches =
      besideStore (Manifest.locate p owner repo names branches) :=
  locateFrom_besideStore ..

end SourceAudit
