import SourceAudit.Json.Parser
import SourceAudit.Json.Printer
import SourceAudit.Proofs.Text.Reader

/-!
# Documents are read back

Every character of a text is read back from what stands for it in quotes, an escape or the character
itself, and so is the text (`quoted_quote`).

A value is exact if nothing of it was lost when it was made: its numbers are natural ones, its texts
and keys are well-formed. The document of an exact value is read as that value (`parse?_render`).
-/

/-! ## Texts in quotes are read back -/

namespace SourceAudit.Json

open Reader Text

variable {c : Char} {rest : List Char}

/-- What stands behind the backslash of an escape with hexadecimal digits is the character with that
code, unless it is half a surrogate pair. -/
theorem unicodeEscape_append {digits : List Char} {n : Nat} (hlength : digits.length = 4)
    (hdigits : ∀ d ∈ digits, isHexDigit d = true) (hvalue : natOfDigits 16 digits = n)
    (hlow : n < 0xD800) :
    unicodeEscape (digits ++ rest) = some (some (Char.ofNat n), rest) := by
  have hcode : code (digits ++ rest) = some (n, rest) := by
    rw [code, ← hlength, bind_of_eq (exactly_append hdigits), hvalue]
    rfl
  have hhigh : isHighHalf n = false := by simp [isHighHalf]; omega
  have hlow' : isLowHalf n = false := by simp [isLowHalf]; omega
  rw [unicodeEscape, bind_of_eq hcode, hhigh, hlow']
  rfl

/-- The digits that escape a control character. -/
theorem hexPadded_four {n : Nat} (h : n < 0x20) :
    (hexPadded false 4 n).length = 4 ∧ (∀ d ∈ hexPadded false 4 n, isHexDigit d = true) ∧
      natOfDigits 16 (hexPadded false 4 n) = n := by
  have hall : ∀ i : Fin 0x20, (hexPadded false 4 i).length = 4 ∧
      (hexPadded false 4 i).all isHexDigit = true ∧
      natOfDigits 16 (hexPadded false 4 i) = i := by decide +kernel
  obtain ⟨hlength, hdigits, hvalue⟩ := hall ⟨n, h⟩
  exact ⟨hlength, List.all_eq_true.mp hdigits, hvalue⟩

/-- A `u` is followed by a code. -/
theorem escape_u (rest : List Char) : escape ('u' :: rest) = unicodeEscape rest := rfl

/-- The characters with an escape of their own. -/
def named : List Char := ['"', '\\', '\x08', '\x0c', '\n', '\r', '\t']

/-- Such a character is read back from its escape. -/
theorem textChar_of_named (h : c ∈ named) : textChar (escapeChar c ++ rest) = some (some c, rest) := by
  simp only [named, List.mem_cons, List.not_mem_nil, or_false] at h
  rcases h with rfl | rfl | rfl | rfl | rfl | rfl | rfl <;> rfl

/-- The other control characters are escaped by their codes, and all other characters stand for
themselves. -/
theorem escapeChar_of_not_named (h : c ∉ named) :
    escapeChar c = if c.toNat < 0x20 then '\\' :: 'u' :: hexPadded false 4 c.toNat else [c] := by
  simp only [named, List.mem_cons, List.not_mem_nil, or_false, not_or] at h
  obtain ⟨hquote, hslash, hback, hfeed, hline, hreturn, htab⟩ := h
  rw [escapeChar, if_neg hquote, if_neg hslash, if_neg hback, if_neg hfeed, if_neg hline,
    if_neg hreturn, if_neg htab]

/-- A character is read back from what stands for it in quotes. -/
theorem textChar_escapeChar (c : Char) (rest : List Char) :
    textChar (escapeChar c ++ rest) = some (some c, rest) := by
  by_cases hnamed : c ∈ named
  · exact textChar_of_named hnamed
  rw [escapeChar_of_not_named hnamed]
  by_cases hcontrol : c.toNat < 0x20
  · obtain ⟨hlength, hdigits, hvalue⟩ := hexPadded_four hcontrol
    have hescape : unicodeEscape (hexPadded false 4 c.toNat ++ rest) = some (some c, rest) := by
      rw [unicodeEscape_append hlength hdigits hvalue (by omega), Char.ofNat_toNat]
    rw [if_pos hcontrol]
    refine orElse_of_eq ?_
    rw [List.cons_append, List.cons_append, bind_of_eq (char_cons '\\' _), escape_u, hescape]
  · have hquote : c ≠ '"' := fun h => hnamed (h ▸ by decide)
    have hslash : c ≠ '\\' := fun h => hnamed (h ▸ by decide)
    have hplain : (decide (c ≠ '"') && decide (c ≠ '\\') && decide (0x20 ≤ c.toNat)) = true := by
      simp [hquote, hslash]
      omega
    rw [if_neg hcontrol, List.singleton_append, textChar, orElse_of_eq_none, map_of_eq]
    · exact satisfy_cons hplain
    · exact bind_of_eq_none (char_eq_none (by simpa using hslash))

/-- A quotation mark is no character of a text. -/
theorem textChar_quote (rest : List Char) : textChar ('"' :: rest) = none := rfl

theorem escapeChar_ne_nil (c : Char) : escapeChar c ≠ [] := by
  unfold escapeChar
  repeat' split
  all_goals exact List.cons_ne_nil _ _

/-- A text is read back from its quotation. -/
theorem quoted_quote (s : String) (rest : List Char) :
    quoted (quote s ++ rest) = some (some s, rest) := by
  have hchars : many textChar (s.toList.flatMap escapeChar ++ '"' :: rest) =
      some (s.toList.map some, '"' :: rest) :=
    many_flatMap (fun _ => True) (fun c _ rest _ => textChar_escapeChar c rest)
      (fun c _ => escapeChar_ne_nil c) (fun _ _ _ => trivial) trivial (textChar_quote rest)
  have hall : (s.toList.map some).mapM id = some s.toList := by
    generalize s.toList = cs
    induction cs with
    | nil => rfl
    | cons c rest ih => simp [List.mapM_cons, ih]
  rw [quote, List.append_assoc, List.cons_append, List.singleton_append, quoted,
    bind_of_eq (char_cons '"' _), bind_of_eq hchars, bind_of_eq (char_cons '"' rest), hall]
  simp [pure_apply]

end SourceAudit.Json

/-! ## Documents are read back -/

namespace SourceAudit.Json

open Reader Text

mutual

/-- Everything in a value is kept. -/
def IsExact : Json → Prop
  | natural n => n < Decimal.wordCount
  | otherNumber _ | brokenText | brokenObject _ => False
  | array items => AreExactItems items
  | object fields => AreExactFields fields
  | null | flag _ | text _ => True

/-- Everything in the values of a list is kept. -/
def AreExactItems : List Json → Prop
  | [] => True
  | v :: rest => IsExact v ∧ AreExactItems rest

/-- Everything in the values of fields is kept. -/
def AreExactFields : List (String × Json) → Prop
  | [] => True
  | (_, v) :: rest => IsExact v ∧ AreExactFields rest

end

theorem areExactItems_iff {items : List Json} : AreExactItems items ↔ ∀ v ∈ items, v.IsExact := by
  induction items with
  | nil => simp [AreExactItems]
  | cons v rest ih => simp [AreExactItems, ih]

theorem areExactFields_iff {fields : List (String × Json)} :
    AreExactFields fields ↔ ∀ f ∈ fields, f.2.IsExact := by
  induction fields with
  | nil => simp [AreExactFields]
  | cons f rest ih => simp [AreExactFields, ih]

/-- An item is nested less deep than the list. -/
theorem depth_le_depthOfItems {items : List Json} {v : Json} (h : v ∈ items) :
    v.depth ≤ depthOfItems items := by
  induction items with
  | nil => cases h
  | cons w rest ih =>
    rw [depthOfItems]
    rcases List.mem_cons.1 h with rfl | h
    · exact Nat.le_max_left _ _
    · exact Nat.le_trans (ih h) (Nat.le_max_right _ _)

/-- A field is nested less deep than the object. -/
theorem depth_le_depthOfFields {fields : List (String × Json)} {f : String × Json} (h : f ∈ fields) :
    f.2.depth ≤ depthOfFields fields := by
  induction fields with
  | nil => cases h
  | cons g rest ih =>
    rw [depthOfFields]
    rcases List.mem_cons.1 h with rfl | h
    · exact Nat.le_max_left _ _
    · exact Nat.le_trans (ih h) (Nat.le_max_right _ _)

/-! ### White space -/

variable {rest s : List Char}

/-- The text does not start with white space. -/
def Tight (s : List Char) : Prop :=
  ∀ c ∈ s.head?, isSpace c = false

/-- There is nothing to pass over. -/
theorem space_of_tight (h : Tight s) : space s = some ((), s) := by
  have hnothing : takeWhile isSpace s = some ([], s) :=
    takeWhile_append (List.forall_mem_nil _) h
  rw [space, bind_of_eq hnothing]
  rfl

/-- The break between two lines is passed over. -/
theorem space_lineBreak {level : Nat} (h : Tight s) : space (lineBreak level ++ s) = some ((), s) := by
  have hspaces : ∀ c ∈ lineBreak level, isSpace c = true := by
    intro c hc
    rcases List.mem_cons.1 hc with rfl | hc
    · rfl
    · rw [List.eq_of_mem_replicate hc]
      rfl
  rw [space, bind_of_eq (takeWhile_append hspaces h)]
  rfl

/-! ### Numbers -/

/-- A number does not go on into the text. -/
def EndsNumber (s : List Char) : Prop :=
  ∀ c ∈ s.head?, c.isDigit = false ∧ c ∉ ['.', 'e', 'E']

/-- What the digits of a number start with. -/
theorem exists_decimal_eq (n : Nat) : ∃ c digits, decimal n = c :: digits ∧ c.isDigit = true := by
  cases hd : decimal n with
  | nil => exact absurd hd (decimal_ne_nil n)
  | cons c digits =>
    exact ⟨c, digits, rfl, isDigit_of_mem_decimal (n := n) (hd ▸ List.mem_cons_self)⟩

theorem integerDigits_decimal {n : Nat} (h : EndsNumber rest) :
    integerDigits (decimal n ++ rest) = some (decimal n, rest) := by
  have hdigits : takeWhile1 Char.isDigit (decimal n ++ rest) = some (decimal n, rest) :=
    takeWhile1_append (decimal_ne_nil n) (fun c hc => isDigit_of_mem_decimal hc)
      fun c hc => (h c hc).1
  have hlead : (decide ((decimal n).head? = some '0') && decide (1 < (decimal n).length)) = false := by
    rcases Nat.eq_zero_or_pos n with rfl | hpos
    · decide
    · simp [head?_decimal hpos]
  rw [integerDigits, bind_of_eq hdigits, hlead]
  rfl

/-- A natural number is read back from its digits. -/
theorem number_decimal {n : Nat} (hn : n < Decimal.wordCount) (h : EndsNumber rest) :
    number (decimal n ++ rest) = some (.natural n, rest) := by
  obtain ⟨c, digits, hd, hc⟩ := exists_decimal_eq n
  have hsign : maybe (char '-') (decimal n ++ rest) = some (none, decimal n ++ rest) := by
    refine maybe_of_eq_none (char_eq_none ?_)
    rw [hd]
    rintro ⟨⟩
    cases hc
  have hfraction : maybe (do char '.'; takeWhile1 Char.isDigit) rest = some (none, rest) := by
    refine maybe_of_eq_none (bind_of_eq_none (char_eq_none fun hpoint => ?_))
    exact absurd (h '.' hpoint).2 (by decide)
  have hexponent : maybe exponent rest = some (none, rest) := by
    refine maybe_of_eq_none (bind_of_eq_none (satisfy_eq_none fun c hc => ?_))
    have hno := (h c hc).2
    simp only [List.mem_cons, List.not_mem_nil, or_false, not_or] at hno
    simp [hno]
  have hpeek : peek rest = some (rest.head?, rest) := rfl
  have hfits : Decimal.fitsUnsigned n = true := by simpa [Decimal.fitsUnsigned] using hn
  rw [number, bind_of_eq hsign, bind_of_eq (integerDigits_decimal h), bind_of_eq hfraction,
    bind_of_eq hexponent, bind_of_eq hpeek]
  refine congrFun (g := (pure (natural n) : Reader Json)) ?_ rest
  split
  · exact absurd (h '.' (by assumption)).2 (by decide)
  · exact absurd (h 'e' (by assumption)).2 (by decide)
  · exact absurd (h 'E' (by assumption)).2 (by decide)
  · simp only [natOfDigits_decimal, hfits]
    rfl

/-- A digit starts a number. -/
theorem value_of_digit {fuel : Nat} {c : Char} (hc : c.isDigit = true) :
    value (fuel + 1) (c :: rest) = number (c :: rest) := by
  have hpeek : peek (c :: rest) = some (some c, c :: rest) := rfl
  rw [value, bind_of_eq hpeek]
  refine congrFun (g := number) ?_ (c :: rest)
  split
  case h_7 => rfl
  all_goals
    rename_i heq
    cases heq
    cases hc

/-! ### Items -/

/-- What is made of items with commas between them, up to a mark that ends them. -/
def listed {α β : Type} (item : Reader α) (close : Char) (make : List α → β) : Reader β := do
  space
  let first? ← maybe item
  let rest ← if first?.isSome then many (do space; char ','; space; item) else pure []
  space
  char close
  pure (make (first?.toList ++ rest))

section Listed

variable {α β ι : Type} {item : Reader α} {close : Char} {make : List α → β}
  {write : ι → List Char} {read : ι → α}

theorem listed_nil (hitem : item (close :: rest) = none) (hclose : isSpace close = false) :
    listed item close make (close :: rest) = some (make [], rest) := by
  have htight : Tight (close :: rest) := by
    rintro c ⟨⟩
    exact hclose
  rw [listed, bind_of_eq (space_of_tight htight), bind_of_eq (maybe_of_eq_none hitem)]
  simp only [Option.isSome_none, if_neg Bool.false_ne_true]
  rw [bind_of_eq (pure_apply _ _), bind_of_eq (space_of_tight htight),
    bind_of_eq (char_cons close rest)]
  rfl

/-- Items are read back one after the other. -/
theorem listed_cons {i : ι} {items : List ι} {level inner : Nat}
    (hitem : ∀ j ∈ i :: items, ∀ rest, EndsNumber rest →
      item (write j ++ rest) = some (read j, rest))
    (htight : ∀ j ∈ i :: items, ∀ rest, Tight (write j ++ rest)) (hclose : isSpace close = false)
    (hcomma : close ≠ ',') :
    listed item close make (lineBreak inner ++ (write i ++
        (items.flatMap (fun j => ',' :: lineBreak inner ++ write j) ++
          (lineBreak level ++ close :: rest)))) =
      some (make ((i :: items).map read), rest) := by
  have hend : Tight (close :: rest) := by
    rintro c ⟨⟩
    exact hclose
  have hbreak : ∀ s, EndsNumber (lineBreak level ++ s) := by
    rintro s c ⟨⟩
    decide
  -- A further item comes behind a comma and a line break.
  have hfurther : ∀ j ∈ items, ∀ rest, EndsNumber rest →
      (do space; char ','; space; item : Reader α) (',' :: lineBreak inner ++ write j ++ rest) =
        some (read j, rest) := by
    intro j hj rest hrest
    have hcommaTight : Tight (',' :: (lineBreak inner ++ (write j ++ rest))) := by
      rintro c ⟨⟩
      rfl
    rw [List.append_assoc, List.cons_append, bind_of_eq (space_of_tight hcommaTight),
      bind_of_eq (char_cons ',' _),
      bind_of_eq (space_lineBreak (htight j (List.mem_cons_of_mem i hj) rest)),
      hitem j (List.mem_cons_of_mem i hj) rest hrest]
  have hnoMore : (do space; char ','; space; item : Reader α) (lineBreak level ++ close :: rest) =
      none := by
    rw [bind_of_eq (space_lineBreak hend)]
    exact bind_of_eq_none (char_eq_none fun h => hcomma (Option.some.inj h))
  have hmany := many_flatMap EndsNumber hfurther (fun j _ => by simp)
    (fun j _ rest => by rintro c ⟨⟩; decide) (hbreak (close :: rest)) hnoMore
  have hfollows : EndsNumber (items.flatMap (fun j => ',' :: lineBreak inner ++ write j) ++
      (lineBreak level ++ close :: rest)) := by
    cases items with
    | nil => exact hbreak _
    | cons j items =>
      rintro c ⟨⟩
      decide
  have hfirst := maybe_of_eq (hitem i List.mem_cons_self _ hfollows)
  rw [listed, bind_of_eq (space_lineBreak (htight i List.mem_cons_self _)), bind_of_eq hfirst]
  simp only [Option.isSome_some, if_true]
  rw [bind_of_eq hmany, bind_of_eq (space_lineBreak hend), bind_of_eq (char_cons close rest)]
  rfl

end Listed

/-- A field: a key and a value. -/
def field (fuel : Nat) : Reader (Option String × Json) := do
  let key? ← quoted
  space
  char ':'
  space
  let v ← value fuel
  pure (key?, v)

/-- An array is its items behind a bracket. -/
theorem value_bracket (fuel : Nat) (s : List Char) :
    value (fuel + 1) ('[' :: s) = listed (value fuel) ']' array s := by
  have hblock : value (fuel + 1) ('[' :: s) =
      (do char '['; listed (value fuel) ']' array : Reader Json) ('[' :: s) := rfl
  rw [hblock, bind_of_eq (char_cons '[' s)]

/-- An object is its fields behind a brace. -/
theorem value_brace (fuel : Nat) (s : List Char) :
    value (fuel + 1) ('\x7b' :: s) = listed (field fuel) '\x7d' ofFields s := by
  have hblock : value (fuel + 1) ('\x7b' :: s) =
      (do char '\x7b'; listed (field fuel) '\x7d' ofFields : Reader Json) ('\x7b' :: s) := rfl
  rw [hblock, bind_of_eq (char_cons '\x7b' s)]

/-! ### Values -/

/-- A field as it stands in a line. -/
def writeField (level : Nat) (f : String × Json) : List Char :=
  quote f.1 ++ (':' :: ' ' :: write level f.2)

theorem writeItems_eq (level : Nat) (items : List Json) :
    writeItems level items = items.flatMap fun v => ',' :: lineBreak level ++ write level v := by
  induction items with
  | nil => rfl
  | cons v rest ih => rw [writeItems, List.flatMap_cons, ih]

theorem writeFields_eq (level : Nat) (fields : List (String × Json)) :
    writeFields level fields =
      fields.flatMap fun f => ',' :: lineBreak level ++ writeField level f := by
  induction fields with
  | nil => rfl
  | cons f rest ih =>
    rw [writeFields, List.flatMap_cons, ih]
    simp [writeField]

/-- A document has no white space in front. -/
theorem tight_write (level : Nat) (v : Json) (rest : List Char) : Tight (write level v ++ rest) := by
  cases v with
  | natural n =>
    obtain ⟨d, digits, hd, hdigit⟩ := exists_decimal_eq n
    rintro c hc
    rw [write, hd] at hc
    obtain rfl : d = c := by simpa using hc
    cases hspace : isSpace d with
    | false => rfl
    | true =>
      have hmem : d ∈ [' ', '\n', '\t', '\r'] := by
        simpa [isSpace, or_assoc] using hspace
      simp only [List.mem_cons, List.not_mem_nil, or_false] at hmem
      rcases hmem with rfl | rfl | rfl | rfl <;> cases hdigit
  | flag b => cases b <;> (rintro c ⟨⟩; rfl)
  | array items => cases items <;> (rintro c ⟨⟩; rfl)
  | object fields => cases fields <;> (rintro c ⟨⟩; rfl)
  | null | otherNumber | text | brokenText | brokenObject =>
    rintro c ⟨⟩
    rfl

/-- Fields whose keys are all well-formed are those of an object. -/
theorem ofFields_map_some (fields : List (String × Json)) :
    ofFields (fields.map fun f => (some f.1, f.2)) = object fields := by
  have hall : (fields.map fun f => (some f.1, f.2)).mapM
      (fun f : Option String × Json => f.1.map (·, f.2)) = some fields := by
    induction fields with
    | nil => rfl
    | cons f rest ih => simp [List.mapM_cons, ih]
  rw [ofFields, hall]

/-- A field is read back if its value is. -/
theorem field_writeField {fuel level : Nat} {f : String × Json}
    (hvalue : value fuel (write level f.2 ++ rest) = some (f.2, rest)) :
    field fuel (writeField level f ++ rest) = some ((some f.1, f.2), rest) := by
  have hcolon : Tight (':' :: ' ' :: (write level f.2 ++ rest)) := by
    rintro c ⟨⟩
    rfl
  have hspace : space (' ' :: (write level f.2 ++ rest)) = some ((), write level f.2 ++ rest) := by
    have hone : takeWhile isSpace ([' '] ++ (write level f.2 ++ rest)) =
        some ([' '], write level f.2 ++ rest) :=
      takeWhile_append (by simp [isSpace]) (tight_write level f.2 rest)
    rw [space]
    exact bind_of_eq hone
  rw [writeField, List.append_assoc, field, bind_of_eq (quoted_quote f.1 _), List.cons_append,
    List.cons_append, bind_of_eq (space_of_tight hcolon), bind_of_eq (char_cons ':' _),
    bind_of_eq hspace, bind_of_eq hvalue]
  rfl

/-- An exact value is read back from its text, if the reader goes deep enough. The recursion of the
reader carries the proof: what is inside a value is read with less fuel. -/
theorem value_write {fuel level : Nat} {v : Json} (hexact : v.IsExact) (hdepth : v.depth < fuel)
    (hrest : EndsNumber rest) : value fuel (write level v ++ rest) = some (v, rest) := by
  induction fuel generalizing v level rest with
  | zero => omega
  | succ fuel ih =>
    cases v with
    | null =>
      have hblock : value (fuel + 1) (write level null ++ rest) =
          (do Reader.text "null"; pure null : Reader Json) ("null".toList ++ rest) := rfl
      rw [hblock, bind_of_eq (text_append "null" rest)]
      rfl
    | flag b =>
      cases b with
      | true =>
        have hblock : value (fuel + 1) (write level (flag true) ++ rest) =
            (do Reader.text "true"; pure (flag true) : Reader Json) ("true".toList ++ rest) := rfl
        rw [hblock, bind_of_eq (text_append "true" rest)]
        rfl
      | false =>
        have hblock : value (fuel + 1) (write level (flag false) ++ rest) =
            (do Reader.text "false"; pure (flag false) : Reader Json) ("false".toList ++ rest) := rfl
        rw [hblock, bind_of_eq (text_append "false" rest)]
        rfl
    | natural n =>
      obtain ⟨c, digits, hd, hc⟩ := exists_decimal_eq n
      have hnumber := number_decimal hexact hrest
      rw [write, hd, List.cons_append, value_of_digit hc, ← List.cons_append, ← hd, hnumber]
    | otherNumber | brokenText | brokenObject => exact hexact.elim
    | text s =>
      have hpeek : peek (quote s ++ rest) = some (some '"', quote s ++ rest) := rfl
      rw [write, value, bind_of_eq hpeek]
      exact bind_of_eq (quoted_quote s rest)
    | array items =>
      cases items with
      | nil =>
        have hnone : value fuel (']' :: rest) = none := by cases fuel <;> rfl
        exact (value_bracket fuel (']' :: rest)).trans (listed_nil hnone rfl)
      | cons w items =>
        have hitems := areExactItems_iff.1 hexact
        have hdeep : ∀ u ∈ w :: items, u.depth < fuel := by
          intro u hu
          have hle := depth_le_depthOfItems hu
          simp only [depth] at hdepth
          omega
        have hread : listed (value fuel) ']' array (lineBreak (level + 1) ++ (write (level + 1) w ++
              (items.flatMap (fun u => ',' :: lineBreak (level + 1) ++ write (level + 1) u) ++
                (lineBreak level ++ ']' :: rest)))) =
            some (array ((w :: items).map id), rest) :=
          listed_cons (fun u hu rest hrest => ih (hitems u hu) (hdeep u hu) hrest)
            (fun u _ rest => tight_write (level + 1) u rest) rfl (by decide)
        rw [List.map_id] at hread
        rw [write, writeItems_eq, ← hread, ← value_bracket]
        simp
    | object fields =>
      cases fields with
      | nil =>
        have hnone : field fuel ('\x7d' :: rest) = none := rfl
        exact (value_brace fuel ('\x7d' :: rest)).trans (listed_nil hnone rfl)
      | cons f fields =>
        have hfields := areExactFields_iff.1 hexact
        have hdeep : ∀ g ∈ f :: fields, g.2.depth < fuel := by
          intro g hg
          have hle := depth_le_depthOfFields hg
          simp only [depth] at hdepth
          omega
        have hread : listed (field fuel) '\x7d' ofFields (lineBreak (level + 1) ++
              (writeField (level + 1) f ++ (fields.flatMap (fun g =>
                ',' :: lineBreak (level + 1) ++ writeField (level + 1) g) ++
                  (lineBreak level ++ '\x7d' :: rest)))) =
            some (ofFields ((f :: fields).map fun g => (some g.1, g.2)), rest) :=
          listed_cons
            (fun g hg rest hrest => field_writeField (ih (hfields g hg) (hdeep g hg) hrest))
            (fun g _ rest => by rintro c ⟨⟩; rfl) rfl (by decide)
        rw [ofFields_map_some] at hread
        obtain ⟨key, w⟩ := f
        rw [write, writeFields_eq, ← hread, ← value_brace]
        simp [writeField]

mutual

/-- An exact value is nested no deeper than its text is long. -/
theorem depth_le_length (level : Nat) : (v : Json) → v.IsExact → v.depth ≤ (write level v).length
  | null, _ | flag _, _ | natural _, _ | text _, _ => Nat.zero_le _
  | array [], _ => by simp [depth, depthOfItems, write]
  | array (v :: rest), h => by
    have hv := depth_le_length (level + 1) v h.1
    have hrest := depthOfItems_le_length (level + 1) rest h.2
    simp only [depth, depthOfItems, write, List.length_append, List.length_cons]
    omega
  | object [], _ => by simp [depth, depthOfFields, write]
  | object ((key, v) :: rest), h => by
    have hv := depth_le_length (level + 1) v h.1
    have hrest := depthOfFields_le_length (level + 1) rest h.2
    simp only [depth, depthOfFields, write, List.length_append, List.length_cons]
    omega

theorem depthOfItems_le_length (level : Nat) :
    (items : List Json) → AreExactItems items → depthOfItems items ≤ (writeItems level items).length
  | [], _ => Nat.zero_le _
  | v :: rest, h => by
    have hv := depth_le_length level v h.1
    have hrest := depthOfItems_le_length level rest h.2
    simp only [depthOfItems, writeItems, List.length_append, List.length_cons]
    omega

theorem depthOfFields_le_length (level : Nat) :
    (fields : List (String × Json)) → AreExactFields fields →
      depthOfFields fields ≤ (writeFields level fields).length
  | [], _ => Nat.zero_le _
  | (key, v) :: rest, h => by
    have hv := depth_le_length level v h.1
    have hrest := depthOfFields_le_length level rest h.2
    simp only [depthOfFields, writeFields, List.length_append, List.length_cons]
    omega

end

/-- The document of an exact value is read as that value. -/
theorem parse?_render {v : Json} (hexact : v.IsExact) : parse? v.render.toList = some v := by
  have hdoc : v.render.toList = write 0 v := String.toList_ofList
  have htight := tight_write 0 v []
  rw [List.append_nil] at htight
  have hvalue : value ((write 0 v).length + 1) (write 0 v) = some (v, []) := by
    have h : value ((write 0 v).length + 1) (write 0 v ++ []) = some (v, []) :=
      value_write hexact (Nat.lt_succ_of_le (depth_le_length 0 v hexact)) (by rintro c ⟨⟩)
    rwa [List.append_nil] at h
  have hend : space [] = some ((), []) := rfl
  rw [hdoc, parse?, all, bind_of_eq (space_of_tight htight), bind_of_eq hvalue, bind_of_eq hend]
  rfl

end SourceAudit.Json
