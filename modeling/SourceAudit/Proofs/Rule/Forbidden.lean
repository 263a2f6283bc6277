import SourceAudit.Proofs.Line.Compound
import SourceAudit.Proofs.Rule.Import
import SourceAudit.Proofs.Rule.Reports

/-!
# Forbidden imports on lines that go on

The rule on forbidden imports has one hit on a line with an import of a
forbidden module if the import is recognized, whatever follows it, and none if it is not
(`hits_forbiddenImport_compound`): a plain import with a semicolon behind it escapes the rule, and so
does a module whose name has characters that are no word characters.
-/

namespace SourceAudit.Rule

open Text (Line)

/-- The hits of the rule on forbidden imports on a line name the forbidden modules there. -/
theorem filter_hits_forbiddenImport {c : Context} {lines : List Line} {k : Nat} {line : Line}
    (hline : lines[k]? = some line) (hplain : Line.looksBinary line = false) :
    (forbiddenImport.hits c lines).filter (·.line == k + 1) =
      ((nameModules modulesOn c.policy.denies "Import of forbidden package " "" line []).map
        fun description => forbiddenImport.hitOf ⟨k + 1, description⟩).toList := by
  have hreports : (forbiddenImport.reports c lines).filter (·.line == k + 1) =
      ((nameModules modulesOn c.policy.denies "Import of forbidden package " "" line []).map
        fun description => ⟨k + 1, description⟩).toList := by
    rw [reports_forbiddenImport, Nat.add_comm k 1]
    exact filter_perLineFrom hline hplain
  have hhits : (forbiddenImport.hits c lines).filter (·.line == k + 1) =
      ((forbiddenImport.reports c lines).filter (·.line == k + 1)).map forbiddenImport.hitOf :=
    List.filter_map
  rw [hhits, hreports]
  rcases nameModules modulesOn c.policy.denies "Import of forbidden package " "" line [] with _ | d
  · rfl
  · rfl

/-- The module of an import that is recognized is the one on the line. -/
theorem modulesOn_compound {s : Import.Compound} (h : s.Recognized) :
    modulesOn s.text = [String.ofList s.module] := by
  obtain ⟨names, hparse⟩ := s.parse?_recognized h
  have hdot : ∀ c ∈ s.module, (c != '.') = true := by
    intro c hc
    refine bne_iff_ne.2 ?_
    rintro rfl
    exact absurd (h.1 _ hc) (by decide)
  have htop : Import.topLevels ⟨.python, [s.module], names, false⟩ = [s.module] := by
    simp [Import.topLevels, Import.topLevel, Import.addNew, List.takeWhile_eq_self_iff.2 hdot,
      s.ne_nil]
  rw [modulesOn, absoluteImport?, hparse]
  simp [htop]

/-- There is no module on a line without a `require` whose import is not recognized. -/
theorem modulesOn_compound_eq_nil {s : Import.Compound} (h : ¬ s.Recognized)
    (hrequire : Import.javaScriptRequire.occursIn s.text = false) : modulesOn s.text = [] := by
  have hnone : Import.javaScriptRequire.find? s.text = none := by
    simpa [Pattern.occursIn] using hrequire
  have hparse : Import.parse? s.text = none := by
    rw [Import.Compound.parse?_unrecognized h, hnone]
    rfl
  rw [modulesOn, absoluteImport?, hparse]

/-- On a line with an import of a forbidden module, or of a name from it, the rule on forbidden imports
has just one hit, which names the module, if the import is recognized. If it is not, the rule has none,
as far as the line has no `require` that brings in another module. -/
theorem hits_forbiddenImport_compound (s : Import.Compound) {c : Context} {lines : List Line} {k : Nat}
    (hline : lines[k]? = some s.text) (hplain : Line.looksBinary s.text = false)
    (hdenied : c.policy.denies (String.ofList s.module) = true) :
    (s.Recognized → (forbiddenImport.hits c lines).filter (·.line == k + 1) =
      [{ ruleId := "IMP001"
         line := k + 1
         category := .forbiddenImports
         severity := .high
         description := "Import of forbidden package '" ++ String.ofList s.module ++ "'" }]) ∧
    (¬ s.Recognized → Import.javaScriptRequire.occursIn s.text = false →
      (forbiddenImport.hits c lines).filter (·.line == k + 1) = []) := by
  rw [filter_hits_forbiddenImport hline hplain, nameModules]
  constructor
  · intro h
    have hwording : "Import of forbidden package " ++ quotedList [String.ofList s.module] ++ "" =
        "Import of forbidden package '" ++ String.ofList s.module ++ "'" := by
      have hstart : "Import of forbidden package '" = "Import of forbidden package " ++ "'" := by decide
      rw [quotedList, List.map_singleton, String.intercalate_singleton, String.append_empty, hstart,
        ← String.append_assoc, ← String.append_assoc]
    rw [modulesOn_compound h, List.filter_cons_of_pos hdenied, List.filter_nil, hwording]
    rfl
  · intro h hrequire
    rw [modulesOn_compound_eq_nil h hrequire]
    rfl

/-- A line with an import of a name and an address, which is the second of a text. -/
def importedName : Import.Compound where
  indent := Import.Space.single.toSpacing
  module := "tensorflow".toList
  ne_nil := by decide
  isIdentifierChar := by decide +kernel
  name? := some "keras".toList
  isName := by decide
  trailing := "; host = '10.0.0.1'".toList
  set_off := by decide
  one_line := by decide

/-- The middle dot may stand in an identifier and is no word character. -/
def dottedModule : Import.Compound where
  indent := Import.Spacing.empty
  module := "a·b".toList
  ne_nil := by decide
  isIdentifierChar := by decide +kernel
  name? := some "c".toList
  isName := by decide
  trailing := []
  set_off := by decide
  one_line := by decide

/-- A hit in spite of what follows, and none on an identifier that is no word. -/
theorem hits_forbiddenImport_compound_tensorflow :
    ((forbiddenImport.hits ⟨Policy.parse "no tensorflow\n", ∅, 3⟩
        ["x = 1".toList, " from tensorflow import keras; host = '10.0.0.1'".toList]).filter
          (·.line == 2)).map (·.description) = ["Import of forbidden package 'tensorflow'"] ∧
      (forbiddenImport.hits ⟨Policy.parse "no a·b\n", ∅, 3⟩ ["from a·b import c".toList]).filter
        (·.line == 1) = [] := by
  have hrecognized : importedName.Recognized := ⟨by decide, fun h => by cases h⟩
  have hunrecognized : ¬ dottedModule.Recognized := fun h =>
    absurd (h.1 '·' (by decide)) (by decide +kernel)
  refine ⟨?_, ?_⟩
  · rw [(hits_forbiddenImport_compound importedName (k := 1) rfl (by decide) (by decide)).1 hrecognized]
    decide
  · exact (hits_forbiddenImport_compound dottedModule (k := 0) rfl (by decide) (by decide)).2
      hunrecognized (by decide +kernel)

/-- A plain import with a semicolon behind it escapes the rule, though its module is forbidden. -/
theorem hits_forbiddenImport_semicolon :
    (Policy.parse "no tensorflow\n").denies "tensorflow" = true ∧
      forbiddenImport.hits ⟨Policy.parse "no tensorflow\n", ∅, 3⟩
        ["import tensorflow; host = '10.0.0.1'".toList] = [] ∧
      forbiddenImport.hits ⟨Policy.parse "no tensorflow\n", ∅, 3⟩
        ["import tensorflow".toList] ≠ [] := by
  decide +kernel

end SourceAudit.Rule
