import SourceAudit.Proofs.Line.Code

/-!
# Lexemes of a line

A line is made of lexemes: characters of code, literals between their delimiters, and at its end perhaps
a literal that is never closed, or else a comment behind the lexemes. Every line is made of lexemes in one
way (`exists_lexes`, `Lexes.unique`), and splitting a line is reading them: of each literal the delimiters
are kept, of the rest everything (`Lexes.split_eq`).

So the comment is a suffix of the line, and what stands in front of it is split into the same code. In
the code no comment starts (`not_startsComment_of_suffix`), and the code of code is that code itself
(`split_lexes`).
-/

namespace SourceAudit.Line

/-! ### What stands in literals -/

/-- The text can stand between two delimiters of this kind: the delimiter occurs in it behind a backslash
only, and no backslash is left open. -/
inductive LiteralText (quote : Char) : List Char → Prop
  | nil : LiteralText quote []
  | plain {c : Char} {text : List Char} (inside : c ≠ quote) (single : c ≠ '\\')
      (rest : LiteralText quote text) : LiteralText quote (c :: text)
  | escaped (c : Char) {text : List Char} (rest : LiteralText quote text) :
      LiteralText quote ('\\' :: c :: text)

/-- A text without the delimiter and without backslashes can stand in a literal. -/
theorem literalText_of_forall {quote : Char} {text : List Char}
    (h : ∀ c ∈ text, c ≠ quote ∧ c ≠ '\\') : LiteralText quote text := by
  induction text with
  | nil => exact .nil
  | cons c text ih =>
    obtain ⟨⟨hquote, hbackslash⟩, htext⟩ := List.forall_mem_cons.1 h
    exact .plain hquote hbackslash (ih htext)

/-- The text of a literal is passed over. -/
theorem LiteralText.splitFrom_append {quote : Char} {text : List Char} (h : LiteralText quote text)
    (rest : List Char) :
    splitFrom (.literal quote false) (text ++ rest) = splitFrom (.literal quote false) rest := by
  induction h with
  | nil => rfl
  | plain inside single _ ih => rw [List.cons_append, splitFrom, if_neg single, if_neg inside, ih]
  | escaped c _ ih =>
    rw [List.cons_append, splitFrom, if_pos rfl, List.cons_append, splitFrom, ih]

/-- Of a literal the delimiters are kept. -/
theorem split_literal {quote : Char} {text : List Char} (hquote : isQuote quote = true)
    (h : LiteralText quote text) (rest : List Char) :
    split (quote :: (text ++ quote :: rest)) = ((split rest).consCode quote).consCode quote := by
  rw [split, splitFrom, if_neg (not_startsComment_of_isQuote hquote _), if_pos hquote,
    h.splitFrom_append, splitFrom, if_neg (ne_backslash_of_isQuote hquote), if_pos rfl, ← split]

/-- The code of a literal are its delimiters. -/
theorem code_literal {quote : Char} {text : List Char} (hquote : isQuote quote = true)
    (h : LiteralText quote text) (rest : List Char) :
    code (quote :: (text ++ quote :: rest)) = quote :: quote :: code rest :=
  congrArg Parts.code (split_literal hquote h rest)

/-- The text can follow the delimiter of a literal that is never closed: it can stand in a literal, but
for a backslash at its end. -/
def UnclosedText (quote : Char) (text : List Char) : Prop :=
  ∃ front back, text = front ++ back ∧ LiteralText quote front ∧ (back = [] ∨ back = ['\\'])

/-- Of a literal that is never closed the first delimiter is kept. -/
theorem split_unclosed {quote : Char} {text : List Char} (hquote : isQuote quote = true)
    (h : UnclosedText quote text) : split (quote :: text) = ⟨[quote], none⟩ := by
  obtain ⟨front, back, rfl, hfront, hback⟩ := h
  have hend : splitFrom (.literal quote false) back = ⟨[], none⟩ := by
    rcases hback with rfl | rfl <;> rfl
  rw [split, splitFrom, if_neg (not_startsComment_of_isQuote hquote _), if_pos hquote,
    hfront.splitFrom_append, hend]
  rfl

/-- Behind a delimiter a literal is closed, or it is not and takes the whole rest. -/
theorem closed_or_unclosed (quote : Char) : (text : List Char) →
    (∃ inner rest, text = inner ++ quote :: rest ∧ LiteralText quote inner) ∨
      UnclosedText quote text
  | [] => .inr ⟨[], [], rfl, .nil, .inl rfl⟩
  | c :: text => by
    by_cases hbackslash : c = '\\'
    -- A backslash takes the next character with it, if there is one.
    · subst hbackslash
      rcases text with _ | ⟨d, text⟩
      · exact .inr ⟨[], ['\\'], rfl, .nil, .inr rfl⟩
      rcases closed_or_unclosed quote text with
        ⟨inner, rest, rfl, hinner⟩ | ⟨front, back, rfl, hfront, hback⟩
      · exact .inl ⟨'\\' :: d :: inner, rest, rfl, hinner.escaped d⟩
      · exact .inr ⟨'\\' :: d :: front, back, rfl, hfront.escaped d, hback⟩
    by_cases hquote : c = quote
    · subst hquote
      exact .inl ⟨[], text, rfl, .nil⟩
    rcases closed_or_unclosed quote text with
      ⟨inner, rest, rfl, hinner⟩ | ⟨front, back, rfl, hfront, hback⟩
    · exact .inl ⟨c :: inner, rest, rfl, hinner.plain hquote hbackslash⟩
    · exact .inr ⟨c :: front, back, rfl, hfront.plain hquote hbackslash, hback⟩

/-- The text of a literal ends in front of this: at a delimiter, at the end of the line, or at a
backslash there. -/
def EndsLiteral (quote : Char) (text : List Char) : Prop :=
  text.head? = some quote ∨ text = [] ∨ text = ['\\']

/-- No text of a literal goes on where one ends. -/
theorem LiteralText.eq_nil_of_ends {quote : Char} {text rest : List Char}
    (hquote : quote ≠ '\\') (h : LiteralText quote text) (hends : EndsLiteral quote (text ++ rest)) :
    text = [] := by
  cases h with
  | nil => rfl
  | plain inside single => simp [EndsLiteral, inside, single] at hends
  | escaped => simp [EndsLiteral, hquote.symm] at hends

/-- A literal ends in one place. -/
theorem LiteralText.append_inj {quote : Char} {text text' rest rest' : List Char}
    (hquote : quote ≠ '\\') (h : LiteralText quote text) (h' : LiteralText quote text')
    (hends : EndsLiteral quote rest) (hends' : EndsLiteral quote rest')
    (heq : text ++ rest = text' ++ rest') : text = text' ∧ rest = rest' := by
  induction h generalizing text' with
  | nil =>
    rw [List.nil_append] at heq
    obtain rfl := h'.eq_nil_of_ends hquote (heq ▸ hends)
    exact ⟨rfl, heq⟩
  | plain inside single htext ih =>
    cases h' with
    | nil =>
      rw [List.nil_append] at heq
      rw [← heq] at hends'
      cases (htext.plain inside single).eq_nil_of_ends hquote hends'
    | plain _ _ htext' =>
      rw [List.cons_append, List.cons_append, List.cons.injEq] at heq
      obtain ⟨rfl, hrest⟩ := ih htext' heq.2
      exact ⟨congrArg (· :: _) heq.1, hrest⟩
    | escaped =>
      rw [List.cons_append, List.cons_append, List.cons.injEq] at heq
      exact absurd heq.1 single
  | escaped c htext ih =>
    cases h' with
    | nil =>
      rw [List.nil_append] at heq
      rw [← heq] at hends'
      cases (htext.escaped c).eq_nil_of_ends hquote hends'
    | plain _ single =>
      simp only [List.cons_append, List.cons.injEq] at heq
      exact absurd heq.1.symm single
    | escaped c' htext' =>
      simp only [List.cons_append, List.cons.injEq, true_and] at heq
      obtain ⟨rfl, hrest⟩ := ih htext' heq.2
      exact ⟨by rw [heq.1], hrest⟩

/-! ### Lexemes -/

/-- A part of a line that is no comment. -/
inductive Lexeme where
  /-- A character of code. -/
  | plain (c : Char)
  | literal (quote : Char) (inner : List Char)
  /-- A literal that goes on to the end of the line. -/
  | unclosed (quote : Char) (inner : List Char)
deriving DecidableEq, Repr

/-- A lexeme as it stands in the line. -/
def Lexeme.text : Lexeme → List Char
  | plain c => [c]
  | literal quote inner => quote :: (inner ++ [quote])
  | unclosed quote inner => quote :: inner

/-- A lexeme without what stands in a literal. -/
def Lexeme.code : Lexeme → List Char
  | plain c => [c]
  | literal quote _ => [quote, quote]
  | unclosed quote _ => [quote]

/-- The line is made of these lexemes, with the comment behind them. -/
inductive Lexes : List Char → List Lexeme → Option (List Char) → Prop
  | nil : Lexes [] [] none
  | comment {text : List Char} (starts : startsComment text = true) : Lexes text [] (some text)
  | plain {c : Char} {rest : List Char} {lexemes : List Lexeme} {comment : Option (List Char)}
      (outside : isQuote c = false) (apart : startsComment (c :: rest) = false)
      (later : Lexes rest lexemes comment) : Lexes (c :: rest) (.plain c :: lexemes) comment
  | literal {quote : Char} {inner rest : List Char} {lexemes : List Lexeme}
      {comment : Option (List Char)} (opens : isQuote quote = true)
      (closed : LiteralText quote inner) (later : Lexes rest lexemes comment) :
      Lexes (quote :: (inner ++ quote :: rest)) (.literal quote inner :: lexemes) comment
  | unclosed {quote : Char} {inner : List Char} (opens : isQuote quote = true)
      (endless : UnclosedText quote inner) : Lexes (quote :: inner) [.unclosed quote inner] none

/-- Every line is made of lexemes. -/
theorem exists_lexes : (line : List Char) → ∃ lexemes comment, Lexes line lexemes comment
  | [] => ⟨[], none, .nil⟩
  | c :: rest => by
    rcases hstarts : startsComment (c :: rest)
    · rcases hquote : isQuote c
      · obtain ⟨lexemes, comment, h⟩ := exists_lexes rest
        exact ⟨_, _, h.plain hquote hstarts⟩
      rcases closed_or_unclosed c rest with ⟨inner, rest, rfl, hinner⟩ | hrest
      · obtain ⟨lexemes, comment, h⟩ := exists_lexes rest
        exact ⟨_, _, h.literal hquote hinner⟩
      · exact ⟨_, _, .unclosed hquote hrest⟩
    · exact ⟨_, _, .comment hstarts⟩
termination_by line => line.length

namespace Lexes

variable {line : List Char} {lexemes lexemes' : List Lexeme} {comment comment' : Option (List Char)}

/-- Where a delimiter stands, a literal starts. -/
theorem of_isQuote {quote : Char} {text : List Char} (h : Lexes (quote :: text) lexemes comment)
    (hquote : isQuote quote = true) :
    (∃ inner rest later, text = inner ++ quote :: rest ∧ LiteralText quote inner ∧
        Lexes rest later comment ∧ lexemes = .literal quote inner :: later) ∨
      (UnclosedText quote text ∧ lexemes = [.unclosed quote text] ∧ comment = none) := by
  cases h with
  | comment starts => exact absurd starts (not_startsComment_of_isQuote hquote _)
  | plain outside =>
    rw [hquote] at outside
    cases outside
  | literal _ closed later => exact .inl ⟨_, _, _, rfl, closed, later, rfl⟩
  | unclosed _ endless => exact .inr ⟨endless, rfl, rfl⟩

/-- A line is made of lexemes in one way. -/
theorem unique (h : Lexes line lexemes comment) (h' : Lexes line lexemes' comment') :
    lexemes' = lexemes ∧ comment' = comment := by
  induction h generalizing lexemes' comment' with
  | nil =>
    cases h' with
    | nil => exact ⟨rfl, rfl⟩
    | comment starts => cases starts
  | comment starts =>
    cases h' with
    | nil => cases starts
    | comment => exact ⟨rfl, rfl⟩
    | plain _ apart =>
      rw [starts] at apart
      cases apart
    | literal opens => exact absurd starts (not_startsComment_of_isQuote opens _)
    | unclosed opens => exact absurd starts (not_startsComment_of_isQuote opens _)
  | plain outside apart _ ih =>
    cases h' with
    | comment starts =>
      rw [starts] at apart
      cases apart
    | plain _ _ later =>
      obtain ⟨rfl, rfl⟩ := ih later
      exact ⟨rfl, rfl⟩
    | literal opens =>
      rw [opens] at outside
      cases outside
    | unclosed opens =>
      rw [opens] at outside
      cases outside
  | @literal quote inner rest _ _ opens closed _ ih =>
    have hbackslash := ne_backslash_of_isQuote opens
    rcases h'.of_isQuote opens with
      ⟨inner', rest', later, heq, closed', hlater, rfl⟩ | ⟨⟨front, back, heq, hfront, hback⟩, -, -⟩
    · obtain ⟨rfl, hrest⟩ := closed.append_inj hbackslash closed' (.inl rfl) (.inl rfl) heq
      obtain rfl := List.tail_eq_of_cons_eq hrest
      obtain ⟨rfl, rfl⟩ := ih hlater
      exact ⟨rfl, rfl⟩
    -- The literal is closed, so its text does not go on to the end.
    · obtain ⟨-, rfl⟩ := closed.append_inj hbackslash hfront (.inl rfl) (.inr hback) heq
      simp [hbackslash] at hback
  | @unclosed quote inner opens endless =>
    have hbackslash := ne_backslash_of_isQuote opens
    rcases h'.of_isQuote opens with
      ⟨inner', rest', later, rfl, closed', -, -⟩ | ⟨-, rfl, rfl⟩
    · obtain ⟨front, back, heq, hfront, hback⟩ := endless
      obtain ⟨-, rfl⟩ := closed'.append_inj hbackslash hfront (.inl rfl) (.inr hback) heq
      simp [hbackslash] at hback
    · exact ⟨rfl, rfl⟩

/-- Splitting a line reads its lexemes. -/
theorem split_eq (h : Lexes line lexemes comment) :
    split line = ⟨lexemes.flatMap Lexeme.code, comment⟩ := by
  induction h with
  | nil => rfl
  | @comment text starts =>
    rcases text with _ | ⟨c, text⟩
    · cases starts
    · rw [split, splitFrom, if_pos starts]
      rfl
  | plain outside apart _ ih =>
    rw [split, splitFrom, if_neg (Bool.eq_false_iff.1 apart), if_neg (Bool.eq_false_iff.1 outside),
      ← split, ih]
    rfl
  | literal opens closed _ ih =>
    rw [split_literal opens closed, ih]
    rfl
  | unclosed opens endless => exact split_unclosed opens endless

theorem code_eq (h : Lexes line lexemes comment) :
    Line.code line = lexemes.flatMap Lexeme.code :=
  congrArg Parts.code h.split_eq

/-- A line is its lexemes and its comment. -/
theorem line_eq (h : Lexes line lexemes comment) :
    line = lexemes.flatMap Lexeme.text ++ comment.getD [] := by
  induction h with
  | nil | comment => rfl
  | plain _ _ _ ih => exact congrArg (_ :: ·) ih
  | @literal _ _ rest _ _ _ _ _ ih =>
    rw [List.flatMap_cons, List.append_assoc, ← ih]
    simp [Lexeme.text]
  | unclosed => simp [Lexeme.text]

/-- What is behind the lexemes is a comment. -/
theorem comment_starts (h : Lexes line lexemes comment) :
    ∀ text ∈ comment, startsComment text = true := by
  induction h with
  | nil | unclosed => simp
  | comment starts => simpa using starts
  | plain _ _ _ ih | literal _ _ _ ih => exact ih

/-- What stands in front of the comment is made of the same lexemes. -/
theorem before (h : Lexes line lexemes comment) :
    Lexes (lexemes.flatMap Lexeme.text) lexemes none := by
  induction h with
  | nil | comment => exact .nil
  | @plain c rest lexemes comment outside apart later ih =>
    -- No comment starts at the character, be it followed by less than before.
    have hapart : startsComment (c :: lexemes.flatMap Lexeme.text) = false := by
      rw [Bool.eq_false_iff] at apart ⊢
      rw [later.line_eq] at apart
      exact fun h => apart (startsComment_append h _)
    exact ih.plain outside hapart
  | @literal quote inner _ lexemes _ opens closed _ ih =>
    have htext : (Lexeme.literal quote inner :: lexemes).flatMap Lexeme.text =
        quote :: (inner ++ quote :: lexemes.flatMap Lexeme.text) := by
      simp [Lexeme.text]
    rw [htext]
    exact ih.literal opens closed
  | @unclosed quote inner opens endless =>
    have htext : [Lexeme.unclosed quote inner].flatMap Lexeme.text = quote :: inner := by
      simp [Lexeme.text]
    rw [htext]
    exact .unclosed opens endless

end Lexes

/-- In the code of a line no comment starts. -/
theorem not_startsComment_of_suffix {line text : List Char} (h : text <:+ code line) :
    ¬ startsComment text = true := by
  obtain ⟨lexemes, comment, hlexes⟩ := exists_lexes line
  rw [hlexes.code_eq] at h
  induction hlexes with
  | nil | comment =>
    obtain rfl := List.suffix_nil.1 h
    exact Bool.false_ne_true
  | plain outside apart later ih =>
    rw [List.flatMap_cons, Lexeme.code, List.singleton_append, List.suffix_cons_iff,
      ← later.code_eq] at h
    rcases h with rfl | h
    · exact mt startsComment_cons_code (Bool.eq_false_iff.1 apart)
    · exact ih (later.code_eq ▸ h)
  | literal opens _ _ ih =>
    rw [List.flatMap_cons, Lexeme.code, List.cons_append, List.singleton_append,
      List.suffix_cons_iff, List.suffix_cons_iff] at h
    rcases h with rfl | rfl | h
    · exact not_startsComment_of_isQuote opens _
    · exact not_startsComment_of_isQuote opens _
    · exact ih h
  | unclosed opens =>
    rw [List.flatMap_singleton, Lexeme.code, List.suffix_cons_iff, List.suffix_nil] at h
    rcases h with rfl | rfl
    · exact not_startsComment_of_isQuote opens _
    · exact Bool.false_ne_true

/-- The signs that start a comment do not occur in the code of a line. -/
theorem not_infix_code (line : List Char) :
    ¬ "#".toList <:+: code line ∧ ¬ "//".toList <:+: code line ∧ ¬ "/*".toList <:+: code line := by
  have hnone : ∀ text, text <:+ code line → ¬ startsComment text = true :=
    fun _ => not_startsComment_of_suffix
  refine ⟨fun h => ?_, fun h => ?_, fun h => ?_⟩ <;>
    obtain ⟨text, hsign, hsuffix⟩ := List.infix_iff_prefix_suffix.1 h
  · exact hnone text hsuffix (startsComment_iff.2 (.inl hsign))
  · exact hnone text hsuffix (startsComment_iff.2 (.inr (.inl hsign)))
  · exact hnone text hsuffix (startsComment_iff.2 (.inr (.inr hsign)))

/-- Splitting a line is reading its lexemes, of which there is one way. The comment is the suffix of the
line behind them and starts with one of the signs for comments; the part before it is split into the same
code, and into no comment. The code is that part without what stands in its literals; no sign for
comments occurs in it, and it is split into itself. -/
theorem split_lexes (line : List Char) :
    ∃ lexemes, Lexes line lexemes (split line).comment ∧
      (∀ lexemes' comment', Lexes line lexemes' comment' →
        lexemes' = lexemes ∧ comment' = (split line).comment) ∧
      line = lexemes.flatMap Lexeme.text ++ (split line).comment.getD [] ∧
      (∀ comment, (split line).comment = some comment → comment <:+ line ∧
        ("#".toList <+: comment ∨ "//".toList <+: comment ∨ "/*".toList <+: comment)) ∧
      split (lexemes.flatMap Lexeme.text) = ⟨(split line).code, none⟩ ∧
      (split line).code = lexemes.flatMap Lexeme.code ∧
      (¬ "#".toList <:+: (split line).code ∧ ¬ "//".toList <:+: (split line).code ∧
        ¬ "/*".toList <:+: (split line).code) ∧
      split (split line).code = ⟨(split line).code, none⟩ := by
  obtain ⟨lexemes, comment, h⟩ := exists_lexes line
  have hcomment : (split line).comment = comment := congrArg Parts.comment h.split_eq
  have hcode : (split line).code = lexemes.flatMap Lexeme.code := h.code_eq
  have hline := h.line_eq
  rw [hcomment]
  refine ⟨lexemes, h, fun _ _ h' => h.unique h', hline, ?_, ?_, hcode, not_infix_code line,
    split_code line⟩
  · rintro text rfl
    rw [Option.getD_some] at hline
    exact ⟨⟨_, hline.symm⟩, startsComment_iff.1 (h.comment_starts text rfl)⟩
  · rw [hcode]
    exact h.before.split_eq

/-- A literal in which a backslash ends the line, behind one with a delimiter and a comment sign in it. -/
example : split "f('a\\'#', \"b\\".toList = ⟨"f('', \"".toList, none⟩ := by decide

end SourceAudit.Line
