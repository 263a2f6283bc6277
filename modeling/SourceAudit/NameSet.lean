/-!
# Sets of names

A finite set of texts kept in increasing order of code points, each text once. Two sets with the
same members are equal.
-/

namespace SourceAudit

/-- Puts a name in its place in an increasing list; a name that is there stays as it is. -/
def insertName (x : String) : List String → List String
  | [] => [x]
  | y :: r => if x < y then x :: y :: r else if y < x then y :: insertName x r else y :: r

/-- The names after an insertion. -/
theorem mem_insertName {x z : String} {l : List String} : z ∈ insertName x l ↔ z = x ∨ z ∈ l := by
  induction l with
  | nil => simp [insertName]
  | cons y r ih =>
    simp only [insertName]
    split
    · simp
    · split
      · simp only [List.mem_cons, ih]
        constructor <;> rintro (h | h | h) <;> simp [h]
      · rename_i h1 h2
        have : x = y := String.le_antisymm (String.not_lt.mp h2) (String.not_lt.mp h1)
        simp [this]

/-- Insertion keeps an increasing list increasing. -/
theorem pairwise_insertName {x : String} {l : List String} (h : l.Pairwise (· < ·)) :
    (insertName x l).Pairwise (· < ·) := by
  induction l with
  | nil => simp [insertName]
  | cons y r ih =>
    obtain ⟨hy, hr⟩ := List.pairwise_cons.mp h
    simp only [insertName]
    split
    · rename_i hxy
      refine List.pairwise_cons.mpr ⟨?_, h⟩
      intro z hz
      rcases List.mem_cons.mp hz with rfl | hz
      · exact hxy
      · exact String.lt_trans hxy (hy z hz)
    · split
      · rename_i hyx
        refine List.pairwise_cons.mpr ⟨?_, ih hr⟩
        intro z hz
        rcases mem_insertName.mp hz with rfl | hz
        · exact hyx
        · exact hy z hz
      · exact h

/-- A set of names. -/
structure NameSet where
  /-- The names in increasing order. -/
  toList : List String
  increasing : toList.Pairwise (· < ·)
deriving DecidableEq

namespace NameSet

/-- The set without names. -/
def empty : NameSet := ⟨[], .nil⟩

instance : EmptyCollection NameSet := ⟨empty⟩

instance : Inhabited NameSet := ⟨empty⟩

/-- The set with one more name. -/
def insert (s : NameSet) (x : String) : NameSet :=
  ⟨insertName x s.toList, pairwise_insertName s.increasing⟩

/-- The name is in the set. -/
def contains (s : NameSet) (x : String) : Bool :=
  s.toList.contains x

/-- The set of the names in a list. -/
def ofList (l : List String) : NameSet :=
  l.foldl insert empty

/-- The number of names. -/
def size (s : NameSet) : Nat :=
  s.toList.length

instance : Membership String NameSet := ⟨fun s x => x ∈ s.toList⟩

/-- Membership is what `contains` tests. -/
theorem contains_iff {s : NameSet} {x : String} : s.contains x = true ↔ x ∈ s := by
  simp [contains, Membership.mem]

/-- The members after an insertion. -/
theorem mem_insert {s : NameSet} {x z : String} : z ∈ s.insert x ↔ z = x ∨ z ∈ s :=
  mem_insertName

/-- The members of a set made of a list. -/
theorem mem_ofList {names : List String} {name : String} :
    name ∈ ofList names ↔ name ∈ names := by
  have hfoldl : ∀ (names : List String) (s : NameSet),
      name ∈ names.foldl insert s ↔ name ∈ s ∨ name ∈ names := by
    intro names
    induction names with
    | nil => simp
    | cons first rest ih =>
      intro s
      rw [List.foldl_cons, ih, mem_insert, List.mem_cons, or_assoc, or_left_comm]
  exact (hfoldl names empty).trans (or_iff_right List.not_mem_nil)

end NameSet

end SourceAudit
