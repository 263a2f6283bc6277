import Mathlib.Data.List.Infix
import Mathlib.Data.List.TakeWhile
import SourceAudit.Line.Code

/-!
# Where comments start

A comment starts at one of three signs (`startsComment_iff`), and a line that starts with one of them or
with a star is taken for a comment (`isComment_iff`). Where a line has no literal, its code ends at the
first such sign (`code_eq_beforeComment`).

The code of a line is code throughout (`split_code`). It starts with the same white space as the line
(`takeWhile_dropWhile_code`), and lacks nothing but the comment if there are no literals
(`exists_comment`).
-/

namespace SourceAudit.Line

/-- The signs that start a comment. -/
theorem startsComment_iff {text : List Char} :
    startsComment text = true ↔
      "#".toList <+: text ∨ "//".toList <+: text ∨ "/*".toList <+: text := by
  unfold startsComment
  split
  · simp
  · simp
  · simp
  · rename_i hhash hslashes hstar
    simp only [Bool.false_eq_true, false_iff, not_or]
    refine ⟨?_, ?_, ?_⟩
    · rintro ⟨rest, rfl⟩
      exact hhash rest rfl
    · rintro ⟨rest, rfl⟩
      exact hslashes rest rfl
    · rintro ⟨rest, rfl⟩
      exact hstar rest rfl

/-- Whatever follows, a comment starts there. -/
theorem startsComment_append {text : List Char} (h : startsComment text = true)
    (rest : List Char) : startsComment (text ++ rest) = true := by
  rw [startsComment_iff] at h ⊢
  exact h.imp (·.trans (List.prefix_append _ _))
    (Or.imp (·.trans (List.prefix_append _ _)) (·.trans (List.prefix_append _ _)))

/-- A line is taken for a comment if a comment starts where it starts, or a star stands there. -/
theorem isComment_iff {line : List Char} :
    isComment line = true ↔
      startsComment (Text.trimStart line) = true ∨ "*".toList <+: Text.trimStart line := by
  rw [isComment, startsComment_iff]
  split
  · rename_i h
    simp [h]
  · rename_i h
    simp [h]
  · rename_i h
    simp [h]
  · rename_i h
    simp [h]
  · rename_i hhash hslashes hblock hstar
    simp only [Bool.false_eq_true, false_iff, not_or]
    refine ⟨⟨?_, ?_, ?_⟩, ?_⟩
    · rintro ⟨rest, h⟩
      exact hhash rest h.symm
    · rintro ⟨rest, h⟩
      exact hslashes rest h.symm
    · rintro ⟨rest, h⟩
      exact hblock rest h.symm
    · rintro ⟨rest, h⟩
      exact hstar rest h.symm

/-- What stands before the first sign of a comment, in a literal or not. -/
def beforeComment : List Char → List Char
  | [] => []
  | c :: rest => if startsComment (c :: rest) then [] else c :: beforeComment rest

/-- Without literals the code of a line ends at the first sign of a comment. -/
theorem code_eq_beforeComment {line : List Char} (h : ∀ c ∈ line, isQuote c = false) :
    code line = beforeComment line := by
  have hsplit : ∀ line : List Char, (∀ c ∈ line, isQuote c = false) →
      (splitFrom .code line).code = beforeComment line := by
    intro line
    induction line with
    | nil => exact fun _ => rfl
    | cons c rest ih =>
      intro h
      obtain ⟨hc, hrest⟩ := List.forall_mem_cons.1 h
      rw [splitFrom, beforeComment]
      split
      · rfl
      · rw [hc, if_neg Bool.false_ne_true, Parts.consCode, ih hrest]
  exact hsplit line h

/-- A line without a sign of a comment is read to its end. -/
theorem beforeComment_eq_self {line : List Char} (hhash : '#' ∉ line)
    (hslashes : ¬ "//".toList <:+: line) (hstar : ¬ "/*".toList <:+: line) :
    beforeComment line = line := by
  induction line with
  | nil => rfl
  | cons c rest ih =>
    have hfirst : ¬ startsComment (c :: rest) = true := by
      intro hstarts
      rcases startsComment_iff.1 hstarts with h | h | h
      · exact hhash (h.subset List.mem_cons_self)
      · exact hslashes h.isInfix
      · exact hstar h.isInfix
    rw [beforeComment, if_neg hfirst, ih (fun h => hhash (List.mem_cons_of_mem c h))
      (fun h => hslashes (h.trans (List.suffix_cons c rest).isInfix))
      (fun h => hstar (h.trans (List.suffix_cons c rest).isInfix))]

/-- A comment starts at a character by itself or by the one after it. -/
theorem startsComment_cons_iff {c : Char} {rest : List Char} :
    startsComment (c :: rest) = true ↔
      c = '#' ∨ c = '/' ∧ (rest.head? = some '/' ∨ rest.head? = some '*') := by
  rw [startsComment_iff]
  rcases rest with _ | ⟨d, rest⟩
  · simp [eq_comm]
  · simp [eq_comm, and_or_left]

/-- The code starts as the line does, unless a comment does. -/
theorem head?_code (line : List Char) :
    (code line).head? = if startsComment line then none else line.head? := by
  rcases line with _ | ⟨c, rest⟩
  · rfl
  rw [code, split, splitFrom]
  split
  · rfl
  split <;> rfl

/-- Where a comment starts in code that is kept, it started in the line. -/
theorem startsComment_cons_code {c : Char} {rest : List Char}
    (h : startsComment (c :: code rest) = true) : startsComment (c :: rest) = true := by
  rw [startsComment_cons_iff, head?_code] at h
  rw [startsComment_cons_iff]
  split at h
  · exact .inl (by simpa using h)
  · exact h

theorem not_startsComment_of_isQuote {c : Char} (h : isQuote c = true) (rest : List Char) :
    ¬ startsComment (c :: rest) = true := by
  intro hstarts
  rcases startsComment_cons_iff.1 hstarts with rfl | ⟨rfl, -⟩ <;> revert h <;> decide

theorem ne_backslash_of_isQuote {quote : Char} (h : isQuote quote = true) : quote ≠ '\\' := by
  rintro rfl
  revert h
  decide

/-- The code of a line is code throughout, its literals are empty. -/
theorem split_code (line : List Char) : split (code line) = ⟨code line, none⟩ := by
  -- Within a literal, what is left is the rest of an empty one.
  have hfrom : ∀ line : List Char,
      split (splitFrom .code line).code = ⟨(splitFrom .code line).code, none⟩ ∧
      ∀ q e, isQuote q = true → splitFrom (.literal q false) (splitFrom (.literal q e) line).code =
        ⟨(splitFrom (.literal q e) line).code, none⟩ := by
    intro line
    induction line with
    | nil => exact ⟨rfl, fun _ _ _ => rfl⟩
    | cons c rest ih =>
      obtain ⟨hcode, hliteral⟩ := ih
      refine ⟨?_, fun q e hq => ?_⟩
      · rw [splitFrom]
        split
        · rfl
        rename_i hstarts
        split
        · rename_i hquote
          rw [Parts.consCode, split, splitFrom, if_neg (not_startsComment_of_isQuote hquote _),
            if_pos hquote, hliteral c false hquote, Parts.consCode]
        · rename_i hquote
          have hkeep : ¬ startsComment (c :: (splitFrom .code rest).code) = true := fun h =>
            hstarts (startsComment_cons_code h)
          rw [Parts.consCode, split, splitFrom, if_neg hkeep, if_neg hquote, ← split, hcode,
            Parts.consCode]
      · rcases e
        · have hbackslash := ne_backslash_of_isQuote hq
          rw [splitFrom]
          split
          · exact hliteral q true hq
          split
          · rename_i hc
            rw [hc, Parts.consCode, splitFrom, if_neg hbackslash, if_pos rfl, ← split, hcode,
              Parts.consCode]
          · exact hliteral q false hq
        · exact hliteral q false hq
  exact (hfrom line).1

theorem code_code (line : List Char) : code (code line) = code line := by
  rw [code, split_code]

/-- Without literals a line is its code and a comment behind it. -/
theorem exists_comment {line : List Char} (h : ∀ c ∈ code line, isQuote c = false) :
    ∃ comment, line = code line ++ comment ∧ (comment = [] ∨ startsComment comment = true) := by
  induction line with
  | nil => exact ⟨[], rfl, .inl rfl⟩
  | cons c rest ih =>
    rw [code, split, splitFrom] at h ⊢
    split at h
    · rename_i hstarts
      rw [if_pos hstarts]
      exact ⟨c :: rest, rfl, .inr hstarts⟩
    rename_i hstarts
    rw [if_neg hstarts]
    split at h
    · rename_i hquote
      rw [h c List.mem_cons_self] at hquote
      cases hquote
    · rename_i hquote
      rw [if_neg hquote]
      obtain ⟨comment, hrest, hcomment⟩ := ih fun d hd => h d (List.mem_cons_of_mem c hd)
      exact ⟨comment, congrArg (c :: ·) hrest, hcomment⟩

/-- The character stands for itself in a line: it opens no literal and no comment. -/
def isKept (c : Char) : Bool :=
  !isQuote c && c != '#' && c != '/'

theorem isKept_of_isBlank {c : Char} (h : Text.isBlank c = true) : isKept c = true := by
  have hne : ∀ d, Text.isBlank d = false → c ≠ d := by
    rintro d hd rfl
    rw [hd] at h
    cases h
  simp [isKept, isQuote, hne '#' (by decide), hne '/' (by decide), hne '"' (by decide),
    hne '\'' (by decide), hne '\x60' (by decide)]

theorem isKept_iff {c : Char} : isKept c = true ↔ isQuote c = false ∧ c ≠ '#' ∧ c ≠ '/' := by
  simp [isKept, and_assoc]

/-- Characters that stand for themselves are kept in the code. -/
theorem code_append {text : List Char} (h : ∀ c ∈ text, isKept c = true) (rest : List Char) :
    code (text ++ rest) = text ++ code rest := by
  induction text with
  | nil => rfl
  | cons c text ih =>
    obtain ⟨hc, htext⟩ := List.forall_mem_cons.1 h
    have hkept := isKept_iff.1 hc
    have hstarts : ¬ startsComment (c :: (text ++ rest)) = true := by
      simp [startsComment_cons_iff, hkept]
    rw [List.cons_append, code, split, splitFrom, if_neg hstarts, hkept.1,
      if_neg Bool.false_ne_true, Parts.consCode, ← split, ← code, ih htext, List.cons_append]

section TakeWhile

variable {p : Char → Bool} (hp : ∀ c, p c = true → isKept c = true) (line : List Char)
include hp

theorem code_eq_takeWhile_append :
    code line = line.takeWhile p ++ code (line.dropWhile p) := by
  rw [← code_append fun c hc => hp c (List.mem_takeWhile_imp hc), List.takeWhile_append_dropWhile]

/-- The characters in front that stand for themselves are kept, and the rest is split on its own. -/
theorem takeWhile_dropWhile_code :
    (code line).takeWhile p = line.takeWhile p ∧
      (code line).dropWhile p = code (line.dropWhile p) := by
  have hhead : ∀ c ∈ (code (line.dropWhile p)).head?, ¬ p c = true := by
    intro c hc
    rw [head?_code] at hc
    split at hc
    · cases hc
    · have hkeep := List.head?_dropWhile_not p line
      rw [Option.mem_def.1 hc] at hkeep
      simpa using hkeep
  have hrun : ∀ c ∈ line.takeWhile p, p c = true := fun c hc => List.mem_takeWhile_imp hc
  rw [code_eq_takeWhile_append hp, List.takeWhile_append_of_pos hrun,
    List.dropWhile_append_of_pos hrun]
  rcases hrest : code (line.dropWhile p) with _ | ⟨c, rest⟩
  · simp
  · have hc : ¬ p c = true := hhead c (by simp [hrest])
    simp [hc]

end TakeWhile

/-- The code of a line is what is left of it. -/
theorem code_sublist (line : List Char) : (code line).Sublist line := by
  have hfrom : ∀ (line : List Char) (context : Context),
      (splitFrom context line).code.Sublist line := by
    intro line
    induction line with
    | nil => exact fun _ => List.Sublist.refl []
    | cons c rest ih =>
      rintro (_ | ⟨q, _ | _⟩)
      · rw [splitFrom]
        split
        · exact List.nil_sublist _
        split
        · exact (ih _).cons_cons c
        · exact (ih _).cons_cons c
      · rw [splitFrom]
        split
        · exact (ih _).cons c
        split
        · exact (ih _).cons_cons c
        · exact (ih _).cons c
      · exact (ih _).cons c
  exact hfrom line .code

theorem looksBinary_code {line : List Char} (h : looksBinary line = false) :
    looksBinary (code line) = false := by
  have hsubset := (code_sublist line).subset
  simp only [looksBinary, Bool.or_eq_false_iff, List.contains_eq_mem, decide_eq_false_iff_not] at h ⊢
  exact h.imp (mt (@hsubset _)) (mt (@hsubset _))

end SourceAudit.Line
