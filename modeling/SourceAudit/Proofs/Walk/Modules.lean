import SourceAudit.Proofs.Text.Pieces
import SourceAudit.Walk

/-!
# The modules that a repository defines

A repository defines the modules along the paths of its candidate files (`Walk.mem_moduleNames_iff`). In
terms of paths (`Walk.Along`), these are the directories on the way to a file and the name of the file up
to its last dot, unless that is `__init__` (`Walk.mem_modulesAlong_iff`).
-/

namespace SourceAudit.Walk

open Text (cut joinWith)

/-- The stem of a name: what stands before the last dot, or all of it if there is none. -/
def IsStem (name stem : List Char) : Prop :=
  (∃ extension, name = stem ++ '.' :: extension ∧ '.' ∉ extension) ∨ '.' ∉ name ∧ stem = name

/-- The module in a file is the stem of its name. -/
theorem moduleOf_eq_iff {name stem : List Char} : moduleOf name = stem ↔ IsStem name stem := by
  have hmodule : ∀ {stem : List Char}, IsStem name stem → moduleOf name = stem := by
    rintro stem (⟨extension, rfl, hdot⟩ | ⟨hdot, rfl⟩)
    · have hdrop : (stem ++ '.' :: extension).reverse.dropWhile (· ≠ '.') = '.' :: stem.reverse := by
        rw [List.reverse_append, List.reverse_cons, List.append_assoc, List.singleton_append,
          List.dropWhile_append_of_pos]
        · simp
        · intro c hc
          exact decide_eq_true fun heq => hdot (heq ▸ List.mem_reverse.1 hc)
      rw [moduleOf, hdrop]
      exact List.reverse_reverse stem
    · have hdrop : stem.reverse.dropWhile (· ≠ '.') = [] :=
        List.dropWhile_eq_nil_iff.2 fun c hc =>
          decide_eq_true fun heq => hdot (heq ▸ List.mem_reverse.1 hc)
      rw [moduleOf, hdrop]
  refine ⟨?_, hmodule⟩
  rintro rfl
  by_cases hdot : '.' ∈ name
  · -- The first dot from the end is the last one.
    obtain ⟨after, before, hreverse, hlast⟩ :=
      List.eq_append_cons_of_mem (List.mem_reverse.2 hdot)
    have hname : name = before.reverse ++ '.' :: after.reverse := by
      rw [← List.reverse_reverse name, hreverse]
      simp
    have hstem : IsStem name before.reverse :=
      .inl ⟨after.reverse, hname, fun h => hlast (List.mem_reverse.1 h)⟩
    rwa [hmodule hstem]
  · have hstem : IsStem name name := .inr ⟨hdot, rfl⟩
    rwa [hmodule hstem]

/-- The module is named along the path: it is a directory on the way, or the stem of the file. -/
def Along (path module : List Char) : Prop :=
  ∃ directories file, path = joinWith ['/'] (directories ++ [file]) ∧
    (∀ segment ∈ directories ++ [file], '/' ∉ segment) ∧ module ≠ [] ∧
    (module ∈ directories ∨ IsStem file module ∧ module ≠ "__init__".toList)

/-- The modules along the path of a file are those that its path names. -/
theorem mem_modulesAlong_iff {path : String} {module : List Char} :
    module ∈ modulesAlong path ↔ Along path.toList module := by
  have hiff : ∀ {directories : List (List Char)} {file : List Char},
      Path.segments path.toList = directories ++ [file] →
      (module ∈ modulesAlong path ↔ module ≠ [] ∧
        (module ∈ directories ∨ IsStem file module ∧ module ≠ "__init__".toList)) := by
    intro directories file hsegments
    have hown : (module ∈
        if (moduleOf file).isEmpty || moduleOf file = "__init__".toList then []
        else [moduleOf file]) ↔
        moduleOf file = module ∧ module ≠ [] ∧ module ≠ "__init__".toList := by
      split
      · rename_i hnone
        rw [Bool.or_eq_true, List.isEmpty_iff, decide_eq_true_iff] at hnone
        refine ⟨fun h => absurd h List.not_mem_nil, ?_⟩
        rintro ⟨rfl, hne, hinit⟩
        exact absurd hnone (not_or.2 ⟨hne, hinit⟩)
      · rename_i hsome
        rw [Bool.or_eq_true, List.isEmpty_iff, decide_eq_true_iff, not_or] at hsome
        rw [List.mem_singleton]
        refine ⟨?_, fun h => h.1.symm⟩
        rintro rfl
        exact ⟨rfl, hsome⟩
    have hne : (!module.isEmpty) = true ↔ module ≠ [] := by simp
    rw [modulesAlong, hsegments, ← moduleOf_eq_iff, List.dropLast_concat, List.getLast?_concat,
      Option.getD_some, List.mem_append, List.mem_filter, hne, hown]
    tauto
  constructor
  · intro h
    have hne : cut '/' path.toList ≠ [] := Text.cutFrom_ne_nil _ _ _
    obtain ⟨directories, file, hsegments⟩ : ∃ directories file,
        cut '/' path.toList = directories ++ [file] :=
      ⟨_, _, (List.dropLast_append_getLast hne).symm⟩
    refine ⟨directories, file, ?_, fun segment hsegment hslash => ?_, (hiff hsegments).1 h⟩
    · rw [← hsegments, Text.joinWith_cut]
    · rw [← hsegments] at hsegment
      exact (Text.mem_of_mem_cut hsegment hslash).2 rfl
  · rintro ⟨directories, file, hpath, hfree, hmodule⟩
    refine (hiff ?_).2 hmodule
    rw [Path.segments, hpath]
    exact Text.cut_joinWith (by simp) hfree

instance (path : String) (module : List Char) : Decidable (Along path.toList module) :=
  decidable_of_iff ((modulesAlong path).contains module = true)
    (List.contains_iff_mem.trans mem_modulesAlong_iff)

/-- The modules of a repository are those along the paths of its candidates. -/
theorem mem_moduleNames_iff {w : Walk} {module : String} :
    module ∈ w.moduleNames ↔ ∃ file ∈ w.files, module.toList ∈ modulesAlong file := by
  rw [moduleNames, NameSet.mem_ofList, List.mem_map]
  constructor
  · rintro ⟨name, hname, rfl⟩
    rw [String.toList_ofList]
    exact List.mem_flatMap.1 hname
  · intro h
    exact ⟨module.toList, List.mem_flatMap.2 h, String.ofList_toList⟩

end SourceAudit.Walk
