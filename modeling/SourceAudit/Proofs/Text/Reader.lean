import Mathlib.Algebra.Group.Nat.Defs
import SourceAudit.Text.Number
import SourceAudit.Text.Reader

/-!
# Readers and digits

A reader that starts with what it reads takes just that and leaves the rest. For the readers that
stop where the text does not go on as they want it, the rest must not go on that way.

The digits that a number is written with, with zeros in front or without, stand for the number.
-/

/-! ## What readers take -/

namespace SourceAudit.Reader

variable {α β ι : Type} {p q : Reader α} {f : α → Reader β} {s r rest : List Char} {a : α}

/-- The second reader starts where the first has ended. -/
theorem bind_of_eq (h : p s = some (a, r)) : (p >>= f) s = f a r := by
  simp only [bind, StateT.bind, h, Option.bind_some]

/-- A reader that starts with a refusal refuses. -/
theorem bind_of_eq_none (h : p s = none) : (p >>= f) s = none := by
  simp only [bind, StateT.bind, h, Option.bind_none]

theorem pure_apply (a : α) (s : List Char) : (pure a : Reader α) s = some (a, s) := rfl

theorem map_of_eq {g : α → β} (h : p s = some (a, r)) : (g <$> p) s = some (g a, r) :=
  bind_of_eq (f := fun a => pure (g a)) h

theorem orElse_apply (p q : Reader α) (s : List Char) : (p <|> q) s = (p s <|> q s) := rfl

/-- A choice is its first reader where that does not refuse. -/
theorem orElse_of_eq (h : p s = some (a, r)) : (p <|> q) s = some (a, r) := by
  rw [orElse_apply, h]
  rfl

/-- A choice is its second reader where the first refuses. -/
theorem orElse_of_eq_none (h : p s = none) : (p <|> q) s = q s := by
  rw [orElse_apply, h]
  rfl

theorem maybe_of_eq (h : p s = some (a, r)) : maybe p s = some (some a, r) := by
  simp only [maybe, h]

theorem maybe_of_eq_none (h : p s = none) : maybe p s = some (none, s) := by
  simp only [maybe, h]

/-! ### Characters -/

variable {c : Char} {accepts : Char → Bool}

theorem satisfy_cons (h : accepts c = true) : satisfy accepts (c :: rest) = some (c, rest) :=
  if_pos h

theorem satisfy_eq_none (h : ∀ c ∈ s.head?, accepts c = false) : satisfy accepts s = none := by
  cases s with
  | nil => rfl
  | cons c rest => exact if_neg (by simp [h c rfl])

theorem char_cons (c : Char) (rest : List Char) : char c (c :: rest) = some ((), rest) :=
  if_pos rfl

theorem char_eq_none (h : s.head? ≠ some c) : char c s = none := by
  cases s with
  | nil => rfl
  | cons d rest => exact if_neg fun heq => h (congrArg some heq)

theorem text_append (t : String) (rest : List Char) :
    text t (t.toList ++ rest) = some ((), rest) := by
  rw [text, if_pos (List.isPrefixOf_iff_prefix.2 (List.prefix_append _ _)), ← String.length_toList,
    List.drop_left]

/-! ### Runs of characters -/

/-- A run ends where the rest does not go on with it. -/
theorem takeWhile_append {digits : List Char} (h : ∀ c ∈ digits, accepts c = true)
    (hrest : ∀ c ∈ rest.head?, accepts c = false) :
    takeWhile accepts (digits ++ rest) = some (digits, rest) := by
  have hstop : rest.takeWhile accepts = [] ∧ rest.dropWhile accepts = rest := by
    cases rest with
    | nil => exact ⟨rfl, rfl⟩
    | cons c rest =>
      have hc : ¬ accepts c = true := by simp [hrest c rfl]
      exact ⟨List.takeWhile_cons_of_neg hc, List.dropWhile_cons_of_neg hc⟩
  rw [takeWhile, List.takeWhile_append_of_pos h, List.dropWhile_append_of_pos h, hstop.1, hstop.2,
    List.append_nil]

theorem takeWhile1_append {digits : List Char} (hne : digits ≠ [])
    (h : ∀ c ∈ digits, accepts c = true) (hrest : ∀ c ∈ rest.head?, accepts c = false) :
    takeWhile1 accepts (digits ++ rest) = some (digits, rest) := by
  have hfull : digits.isEmpty = false := by simpa using hne
  rw [takeWhile1, bind_of_eq (takeWhile_append h hrest), hfull]
  rfl

theorem exactly_append {digits : List Char} (h : ∀ c ∈ digits, accepts c = true) :
    exactly digits.length accepts (digits ++ rest) = some (digits, rest) := by
  have hall : digits.all accepts = true := List.all_eq_true.2 h
  simp only [exactly, List.take_left, List.drop_left, hall, decide_true, Bool.and_true, if_true]

/-! ### Repetitions -/

section Many

variable {write : ι → List Char} {value : ι → α} (Follows : List Char → Prop)

/-- A reader of items reads the texts of items one after the other, up to a rest that it refuses. -/
theorem manyWithin_flatMap {items : List ι}
    (hitem : ∀ i ∈ items, ∀ rest, Follows rest → p (write i ++ rest) = some (value i, rest))
    (hne : ∀ i ∈ items, write i ≠ []) (hwrite : ∀ i ∈ items, ∀ rest, Follows (write i ++ rest))
    (hrest : Follows rest) (hend : p rest = none) {n : Nat} (hn : items.length ≤ n) :
    manyWithin p n (items.flatMap write ++ rest) = some (items.map value, rest) := by
  induction items generalizing n with
  | nil =>
    cases n with
    | zero => rfl
    | succ n => simp [manyWithin, hend]
  | cons i items ih =>
    obtain ⟨n, rfl⟩ : ∃ m, n = m + 1 := Nat.exists_eq_add_one_of_ne_zero (by simp at hn; omega)
    -- What follows the first item starts with another one or is the rest.
    have hfollows : Follows (items.flatMap write ++ rest) := by
      cases items with
      | nil => exact hrest
      | cons j items =>
        rw [List.flatMap_cons, List.append_assoc]
        exact hwrite j (List.mem_cons_of_mem i List.mem_cons_self) _
    have hfirst := hitem i List.mem_cons_self _ hfollows
    have hshorter : (items.flatMap write ++ rest).length <
        (write i ++ (items.flatMap write ++ rest)).length := by
      have hpos := List.length_pos_iff.2 (hne i List.mem_cons_self)
      simp only [List.length_append]
      omega
    have hrest' := ih (fun j hj => hitem j (List.mem_cons_of_mem i hj))
      (fun j hj => hne j (List.mem_cons_of_mem i hj))
      (fun j hj => hwrite j (List.mem_cons_of_mem i hj)) (n := n) (by simpa using hn)
    rw [List.flatMap_cons, List.append_assoc, manyWithin]
    simp only [hfirst, if_pos hshorter, hrest', List.map_cons]

theorem many_flatMap {items : List ι}
    (hitem : ∀ i ∈ items, ∀ rest, Follows rest → p (write i ++ rest) = some (value i, rest))
    (hne : ∀ i ∈ items, write i ≠ []) (hwrite : ∀ i ∈ items, ∀ rest, Follows (write i ++ rest))
    (hrest : Follows rest) (hend : p rest = none) :
    many p (items.flatMap write ++ rest) = some (items.map value, rest) := by
  refine manyWithin_flatMap Follows hitem hne hwrite hrest hend ?_
  -- Every item takes a character.
  have hlength : ∀ items : List ι, (∀ i ∈ items, write i ≠ []) →
      items.length ≤ (items.flatMap write).length := by
    intro items hne
    induction items with
    | nil => exact Nat.zero_le _
    | cons i items ih =>
      have hpos := List.length_pos_iff.2 (hne i List.mem_cons_self)
      have ih' := ih fun j hj => hne j (List.mem_cons_of_mem i hj)
      rw [List.flatMap_cons, List.length_append, List.length_cons]
      omega
  have hitems := hlength items hne
  rw [List.length_append]
  omega

end Many

end SourceAudit.Reader

/-! ## Digits are read back -/

namespace SourceAudit.Text

/-- A decimal digit has the value that its place after `0` gives. -/
theorem digitValue_of_isDigit {c : Char} (h : c.isDigit = true) :
    digitValue c = c.toNat - '0'.toNat := by
  have hrange : '0' ≤ c ∧ c ≤ '9' := by simpa [Char.isDigit, Char.le_def] using h
  rw [digitValue, if_pos hrange]

/-- Decimal digits stand for the number that they are the digits of. -/
theorem natOfDigits_eq_ofDigitChars {digits : List Char} (h : ∀ c ∈ digits, c.isDigit = true) :
    natOfDigits 10 digits = Nat.ofDigitChars 10 digits 0 := by
  rw [natOfDigits, Nat.ofDigitChars]
  generalize 0 = n
  induction digits generalizing n with
  | nil => rfl
  | cons c rest ih =>
    rw [List.foldl_cons, List.foldl_cons, digitValue_of_isDigit (h c List.mem_cons_self),
      Nat.mul_comm n]
    exact ih (fun d hd => h d (List.mem_cons_of_mem c hd)) _

theorem decimal_eq_toDigits (n : Nat) : decimal n = Nat.toDigits 10 n :=
  Nat.toList_repr

/-- A number is written with digits. -/
theorem isDigit_of_mem_decimal {n : Nat} {c : Char} (h : c ∈ decimal n) : c.isDigit = true := by
  rw [decimal_eq_toDigits] at h
  exact Nat.isDigit_of_mem_toDigits (by omega) (by omega) h

theorem decimal_ne_nil (n : Nat) : decimal n ≠ [] := by
  rw [decimal_eq_toDigits]
  exact Nat.toDigits_ne_nil

/-- The digits of a number stand for it. -/
theorem natOfDigits_decimal (n : Nat) : natOfDigits 10 (decimal n) = n := by
  rw [natOfDigits_eq_ofDigitChars fun c hc => isDigit_of_mem_decimal hc, decimal_eq_toDigits,
    Nat.ofDigitChars_ten_toDigits]

/-- A number has no more digits than it needs. -/
theorem length_decimal_le_iff {n width : Nat} (h : 0 < width) :
    (decimal n).length ≤ width ↔ n < 10 ^ width := by
  rw [decimal_eq_toDigits]
  exact Nat.length_toDigits_le_iff (by omega) h

/-- No number but zero starts with a zero. -/
theorem head?_decimal {n : Nat} (h : 0 < n) : (decimal n).head? ≠ some '0' := by
  rw [decimal_eq_toDigits]
  induction n using Nat.strongRecOn with
  | ind n ih =>
    by_cases hlt : n < 10
    · have hall : ∀ i : Fin 10, 0 < i.val → [Nat.digitChar i].head? ≠ some '0' := by decide
      rw [Nat.toDigits_of_lt_base hlt]
      exact hall ⟨n, hlt⟩ h
    · rw [Nat.toDigits_of_base_le (by omega) (by omega),
        List.head?_append, Option.or_of_isSome (by simp [Nat.toDigits_ne_nil])]
      exact ih (n / 10) (by omega) (by omega)

/-! ### Zeros in front -/

theorem isDigit_of_mem_decimalPadded {width n : Nat} {c : Char} (h : c ∈ decimalPadded width n) :
    c.isDigit = true := by
  rcases List.mem_append.1 h with h | h
  · rw [List.eq_of_mem_replicate h]
    rfl
  · exact isDigit_of_mem_decimal h

/-- Zeros in front do not count. -/
theorem natOfDigits_decimalPadded (width n : Nat) : natOfDigits 10 (decimalPadded width n) = n := by
  have hdigits := @natOfDigits_decimal n
  rw [natOfDigits_eq_ofDigitChars fun c hc => isDigit_of_mem_decimal hc] at hdigits
  rw [natOfDigits_eq_ofDigitChars fun c hc => isDigit_of_mem_decimalPadded hc, decimalPadded,
    Nat.ofDigitChars_append, Nat.ofDigitChars_replicate_zero, Nat.mul_zero, hdigits]

/-- The width is kept by every number that is not too large for it. -/
theorem length_decimalPadded {width n : Nat} (hpos : 0 < width) (h : n < 10 ^ width) :
    (decimalPadded width n).length = width := by
  have hle := (length_decimal_le_iff (n := n) hpos).2 h
  rw [decimalPadded, List.length_append, List.length_replicate]
  omega

theorem decimalPadded_ne_nil (width n : Nat) : decimalPadded width n ≠ [] :=
  List.append_ne_nil_of_right_ne_nil _ (decimal_ne_nil n)

end SourceAudit.Text
