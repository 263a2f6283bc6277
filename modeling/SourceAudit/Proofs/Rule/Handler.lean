import Mathlib.Data.List.Forall2
import SourceAudit.Proofs.Text.Pieces
import SourceAudit.Rule.Style

/-!
# Bodies of handlers

The rule on terminators looks for the body of a handler on the lines after its header. It sees of each
line whether it counts as a statement, of the first statement whether it is a lone `pass`, and of the
second one how far it is indented (`bodyIsPass_eq`). Lines that agree in this are the same body to it
(`bodyIsPass_congr`).
-/

namespace SourceAudit.Rule

open Text (Line)

variable {line other : Line} {lines others : List Line}

/-- A line counts as a statement of the body of a handler. -/
def isStatement (line : Line) : Bool :=
  !(Text.trim line).isEmpty && (Text.trim line).head? != some '#'

/-- A line is a statement if there is something on it and no number sign comes first. -/
theorem isStatement_eq (line : Line) :
    isStatement line = (Text.trimStart line).head?.any (· != '#') := by
  rw [← Text.head?_trim, isStatement]
  rcases Text.trim line with _ | ⟨c, rest⟩ <;> rfl

/-- These statements start with a lone `pass` at an indentation. -/
def startsWithPass (headerIndent : Nat) : List Line → Bool
  | [] => false
  | [first] => Text.trim first == "pass".toList
  | first :: next :: _ => Text.trim first == "pass".toList && indentWidth next ≤ headerIndent

theorem bodyIsPass_eq (headerIndent : Nat) (later : List Line) :
    bodyIsPass headerIndent later = startsWithPass headerIndent (later.filter isStatement) := by
  change (match later.filter isStatement with | [] => false | first :: rest => _) = _
  rcases later.filter isStatement with _ | ⟨first, _ | ⟨next, rest⟩⟩
  · rfl
  · exact Bool.and_true _
  · rfl

/-- Only the characters of the word and white space stand on the line of a lone `pass`. -/
theorem trim_ne_pass_of_mem {c : Char} (hc : c ∈ line) (hblank : Text.isBlank c = false)
    (hword : c ∉ "pass".toList) : Text.trim line ≠ "pass".toList :=
  fun hpass => hword (hpass ▸ Text.mem_trim hc hblank)

/-- The rule sees the same of two lines in the body of a handler. -/
structure SameInBody (line other : Line) : Prop where
  statement : isStatement line = isStatement other
  pass : Text.trim line = "pass".toList ↔ Text.trim other = "pass".toList
  indentation : indentWidth line = indentWidth other

theorem startsWithPass_congr (h : List.Forall₂ SameInBody lines others) (headerIndent : Nat) :
    startsWithPass headerIndent lines = startsWithPass headerIndent others := by
  have hpass : ∀ {line other : Line}, SameInBody line other →
      (Text.trim line == "pass".toList) = (Text.trim other == "pass".toList) := fun h => by
    rw [Bool.eq_iff_iff, beq_iff_eq, beq_iff_eq, h.pass]
  -- The body is known by its first statement and the indentation of the next one.
  rcases h with _ | ⟨hfirst, _ | ⟨hnext, -⟩⟩
  · rfl
  · exact hpass hfirst
  · rw [startsWithPass, startsWithPass, hpass hfirst, hnext.indentation]

/-- The body of a handler is a lone `pass` in both. -/
theorem bodyIsPass_congr (h : List.Forall₂ SameInBody lines others) (headerIndent : Nat) :
    bodyIsPass headerIndent lines = bodyIsPass headerIndent others := by
  have hstatements : List.Forall₂ SameInBody (lines.filter isStatement)
      (others.filter isStatement) :=
    List.rel_filter (fun _ _ h => Bool.eq_iff_iff.1 h.statement) h
  rw [bodyIsPass_eq, bodyIsPass_eq, startsWithPass_congr hstatements]

end SourceAudit.Rule
