import Mathlib.Data.List.DropRight
import Mathlib.Data.List.Flatten
import Mathlib.Data.List.TakeWhile
import Mathlib.Tactic.SplitIfs
import SourceAudit.Text.Blank

/-!
# Pieces of texts

Where the characters of pieces come from, how long the pieces are together, and that pieces which are
joined are cut apart again (`cutWhere_joinWith`, `cut_joinWith`).

What trimming leaves of a text: nothing exactly if the text is white space (`trim_eq_nil_iff`), and else
what lies between its first and its last character that is no white space (`trim_eq_iff`). What is
trimmed is trimmed no further (`trim_trim`).
-/

namespace SourceAudit.Text

variable {p : Char → Bool} {piece name s t : List Char} {sep c : Char}

/-- The characters of a piece are some that were not cut at. -/
theorem mem_of_mem_cutFrom {piece w : List Char} (hw : w ∈ cutFrom p piece s) (hc : c ∈ w) :
    c ∈ piece ∨ c ∈ s ∧ p c = false := by
  induction s generalizing piece with
  | nil =>
    obtain rfl := List.mem_singleton.1 hw
    exact .inl (List.mem_reverse.1 hc)
  | cons d rest ih =>
    rw [cutFrom] at hw
    split at hw
    · rcases List.mem_cons.1 hw with rfl | hw
      · exact .inl (List.mem_reverse.1 hc)
      · rcases ih hw with h | ⟨h, hp⟩
        · cases h
        · exact .inr ⟨List.mem_cons_of_mem d h, hp⟩
    · rename_i hd
      rcases ih hw with h | ⟨h, hp⟩
      · rcases List.mem_cons.1 h with rfl | h
        · exact .inr ⟨List.mem_cons_self, by simpa using hd⟩
        · exact .inl h
      · exact .inr ⟨List.mem_cons_of_mem d h, hp⟩

/-- The characters of a piece are some of the text, and none of them is the separator. -/
theorem mem_of_mem_cut {sep : Char} {w : List Char} (hw : w ∈ cut sep s) (hc : c ∈ w) :
    c ∈ s ∧ c ≠ sep := by
  rcases mem_of_mem_cutFrom hw hc with h | ⟨h, hne⟩
  · cases h
  · exact ⟨h, by simpa using hne⟩

/-- The characters of a word are some of the text, and none of them is white space. -/
theorem mem_of_mem_words {w : List Char} (hw : w ∈ words s) (hc : c ∈ w) :
    c ∈ s ∧ isBlank c = false := by
  rcases mem_of_mem_cutFrom (List.mem_filter.1 hw).1 hc with h | h
  · cases h
  · exact h

/-- The pieces are together what was not cut at. -/
theorem flatten_cutFrom (piece s : List Char) :
    (cutFrom p piece s).flatten = piece.reverse ++ s.filter fun c => !p c := by
  induction s generalizing piece with
  | nil => simp [cutFrom]
  | cons d rest ih =>
    rw [cutFrom]
    split
    · rename_i hd
      rw [List.flatten_cons, ih, List.filter_cons_of_neg (by simpa using hd), List.reverse_nil,
        List.nil_append]
    · rename_i hd
      rw [ih, List.filter_cons_of_pos (by simpa using hd), List.reverse_cons, List.append_assoc,
        List.singleton_append]

/-- The pieces have together as many characters as were not cut at. -/
theorem length_flatten_cutFrom (piece s : List Char) :
    (cutFrom p piece s).flatten.length = piece.length + s.countP fun c => !p c := by
  rw [flatten_cutFrom, List.length_append, List.length_reverse, List.countP_eq_length_filter]

/-- The words have together as many characters as are no white space. -/
theorem length_flatten_words (s : List Char) :
    (words s).flatten.length = s.countP fun c => !isBlank c := by
  have hflatten : (words s).flatten = (cutWhere isBlank s).flatten :=
    List.flatten_filter_not_isEmpty
  rw [hflatten, cutWhere, length_flatten_cutFrom, List.length_nil, Nat.zero_add]

/-- There are no more words than characters in them. -/
theorem length_words_le (s : List Char) : (words s).length ≤ (words s).flatten.length := by
  have hall : ∀ l : List (List Char), (∀ w ∈ l, w ≠ []) → l.length ≤ l.flatten.length := by
    intro l hl
    induction l with
    | nil => exact Nat.le_refl _
    | cons w rest ih =>
      have hw : 0 < w.length := List.length_pos_iff.2 (hl w List.mem_cons_self)
      have hrest := ih fun v hv => hl v (List.mem_cons_of_mem w hv)
      rw [List.flatten_cons, List.length_append, List.length_cons]
      omega
  refine hall _ fun w hw hnil => ?_
  have hne := (List.mem_filter.1 hw).2
  rw [hnil] at hne
  cases hne

theorem joinWith_singleton (sep w : List Char) : joinWith sep [w] = w :=
  List.append_nil w

theorem joinWith_cons_cons (sep w v : List Char) (rest : List (List Char)) :
    joinWith sep (w :: v :: rest) = w ++ (sep ++ joinWith sep (v :: rest)) := by
  rw [joinWith, List.intersperse_cons_cons, List.flatten_cons, List.flatten_cons, joinWith]

/-- With a separator in front, each piece has its own. -/
theorem flatMap_cons_eq {pieces : List (List Char)} (hne : pieces ≠ []) :
    pieces.flatMap (sep :: ·) = sep :: joinWith [sep] pieces := by
  induction pieces with
  | nil => exact absurd rfl hne
  | cons w rest ih =>
    rcases rest with _ | ⟨v, rest⟩
    · rw [List.flatMap_singleton, joinWith_singleton]
    · rw [List.flatMap_cons, ih (List.cons_ne_nil _ _), joinWith_cons_cons, List.cons_append,
        List.singleton_append]

/-- What is added to the last piece stands at the end. -/
theorem joinWith_concat_append (sep w t : List Char) (pieces : List (List Char)) :
    joinWith sep (pieces ++ [w ++ t]) = joinWith sep (pieces ++ [w]) ++ t := by
  induction pieces with
  | nil => rw [List.nil_append, List.nil_append, joinWith_singleton, joinWith_singleton]
  | cons v rest ih =>
    have hcons : ∀ u, ∃ v' rest', rest ++ [u] = v' :: rest' := by
      rcases rest with _ | ⟨v', rest'⟩
      · exact fun u => ⟨u, [], rfl⟩
      · exact fun u => ⟨v', rest' ++ [u], rfl⟩
    obtain ⟨v₁, rest₁, h₁⟩ := hcons (w ++ t)
    obtain ⟨v₂, rest₂, h₂⟩ := hcons w
    rw [List.cons_append, List.cons_append, h₁, h₂, joinWith_cons_cons, joinWith_cons_cons, ← h₁,
      ← h₂, ih, List.append_assoc, List.append_assoc]

/-- What a separator adds to pieces. -/
theorem length_joinWith_le (sep : List Char) (pieces : List (List Char)) :
    (joinWith sep pieces).length ≤ pieces.flatten.length + pieces.length * sep.length := by
  induction pieces with
  | nil => simp [joinWith]
  | cons piece rest ih =>
    cases rest with
    | nil => simp [joinWith]
    | cons next rest =>
      -- The separator stands once between two pieces.
      rw [joinWith] at ih ⊢
      rw [List.intersperse_cons_cons, List.flatten_cons, List.flatten_cons, List.length_append,
        List.length_append, List.flatten_cons, List.length_append, List.length_cons,
        Nat.succ_mul]
      omega

/-- Words that are joined by a character have at most twice as many characters as the text has that
are no white space. -/
theorem length_joinWith_words_le (d : Char) (s : List Char) :
    (joinWith [d] (words s)).length ≤ 2 * s.countP fun c => !isBlank c := by
  have hjoin := length_joinWith_le [d] (words s)
  have hwords := length_words_le s
  rw [length_flatten_words] at hjoin hwords
  rw [List.length_singleton, Nat.mul_one] at hjoin
  omega

/-- The characters of joined pieces are those of the separator and of the pieces. -/
theorem mem_of_mem_joinWith {sep : List Char} {pieces : List (List Char)}
    (hc : c ∈ joinWith sep pieces) : c ∈ sep ∨ ∃ w ∈ pieces, c ∈ w := by
  induction pieces with
  | nil => cases hc
  | cons piece rest ih =>
    cases rest with
    | nil => exact .inr ⟨piece, List.mem_cons_self, by simpa [joinWith] using hc⟩
    | cons next rest =>
      rw [joinWith, List.intersperse_cons_cons, List.flatten_cons, List.flatten_cons] at hc
      rcases List.mem_append.1 hc with hc | hc
      · exact .inr ⟨piece, List.mem_cons_self, hc⟩
      rcases List.mem_append.1 hc with hc | hc
      · exact .inl hc
      · rcases ih hc with h | ⟨w, hw, hc⟩
        · exact .inl h
        · exact .inr ⟨w, List.mem_cons_of_mem piece hw, hc⟩

/-- Dropping at the end leaves a first part. -/
theorem dropEndWhile_prefix (p : Char → Bool) (s : List Char) : dropEndWhile p s <+: s := by
  rw [dropEndWhile, ← List.reverse_suffix, List.reverse_reverse]
  exact List.dropWhile_suffix p

theorem dropEndWhile_sublist (p : Char → Bool) (s : List Char) : (dropEndWhile p s).Sublist s :=
  List.IsPrefix.sublist <| dropEndWhile_prefix p s

/-- What is dropped at the end is dropped in one go. -/
theorem dropEndWhile_append (h : ∀ c ∈ t, p c = true) :
    dropEndWhile p (s ++ t) = dropEndWhile p s := by
  rw [dropEndWhile, List.reverse_append,
    List.dropWhile_append_of_pos fun c hc => h c (List.mem_reverse.1 hc), dropEndWhile]

/-- There is always a piece. -/
theorem cutFrom_ne_nil (p : Char → Bool) (piece s : List Char) : cutFrom p piece s ≠ [] := by
  induction s generalizing piece with
  | nil => exact List.cons_ne_nil _ _
  | cons c rest ih =>
    rw [cutFrom]
    split
    · exact List.cons_ne_nil _ _
    · exact ih _

/-- A text without a cut is the rest of its piece. -/
theorem cutFrom_eq_singleton (h : ∀ c ∈ s, p c = false) :
    cutFrom p piece s = [piece.reverse ++ s] := by
  induction s generalizing piece with
  | nil => rw [cutFrom, List.append_nil]
  | cons c rest ih =>
    have hc : ¬ p c = true := by simp [h c List.mem_cons_self]
    rw [cutFrom, if_neg hc, ih fun d hd => h d (List.mem_cons_of_mem c hd), List.reverse_cons,
      List.append_assoc]
    rfl

/-- The first piece is what comes before the first cut. -/
theorem cutFrom_append_cons (h : ∀ d ∈ s, p d = false) (hc : p c = true) :
    cutFrom p piece (s ++ c :: t) = (piece.reverse ++ s) :: cutFrom p [] t := by
  induction s generalizing piece with
  | nil => rw [List.nil_append, cutFrom, if_pos hc, List.append_nil]
  | cons d rest ih =>
    have hd : ¬ p d = true := by simp [h d List.mem_cons_self]
    rw [List.cons_append, cutFrom, if_neg hd, ih fun e he => h e (List.mem_cons_of_mem d he),
      List.reverse_cons, List.append_assoc, List.singleton_append]

/-- Pieces that are joined by a separator, and have none of what is cut at, are cut apart again. -/
theorem cutWhere_joinWith {pieces : List (List Char)} (hne : pieces ≠ []) (hsep : p sep = true)
    (h : ∀ w ∈ pieces, ∀ c ∈ w, p c = false) : cutWhere p (joinWith [sep] pieces) = pieces := by
  induction pieces with
  | nil => exact absurd rfl hne
  | cons w rest ih =>
    have hw := h w List.mem_cons_self
    cases rest with
    | nil => rw [joinWith_singleton, cutWhere, cutFrom_eq_singleton hw, List.reverse_nil,
        List.nil_append]
    | cons v rest =>
      have hrest := ih (List.cons_ne_nil _ _) fun u hu => h u (List.mem_cons_of_mem w hu)
      rw [joinWith_cons_cons, List.singleton_append, cutWhere, cutFrom_append_cons hw hsep,
        ← cutWhere, hrest, List.reverse_nil, List.nil_append]

/-- What is cut at a separator is joined by it again. -/
theorem joinWith_cut (sep : Char) (s : List Char) : joinWith [sep] (cut sep s) = s := by
  have hfrom : ∀ s piece : List Char,
      joinWith [sep] (cutFrom (· == sep) piece s) = piece.reverse ++ s := by
    intro s
    induction s with
    | nil =>
      intro piece
      rw [cutFrom, joinWith_singleton, List.append_nil]
    | cons c rest ih =>
      intro piece
      rw [cutFrom]
      split
      · rename_i hc
        obtain ⟨next, more, hnext⟩ :=
          List.exists_cons_of_ne_nil (cutFrom_ne_nil (· == sep) [] rest)
        have hrest := ih []
        rw [hnext] at hrest ⊢
        rw [joinWith_cons_cons, hrest, eq_of_beq hc]
        rfl
      · rw [ih, List.reverse_cons, List.append_assoc, List.singleton_append]
  exact hfrom s []

/-- What stands before a cut and what stands after it are cut on their own. -/
theorem cutFrom_append (hc : p c = true) :
    cutFrom p piece (s ++ c :: t) = cutFrom p piece s ++ cutFrom p [] t := by
  induction s generalizing piece with
  | nil => rw [List.nil_append, cutFrom, cutFrom, if_pos hc, List.singleton_append]
  | cons d rest ih =>
    rw [List.cons_append, cutFrom, cutFrom]
    split
    · rw [ih, List.cons_append]
    · exact ih

/-- The last piece is what comes after the last cut. -/
theorem getLast?_cutFrom (hc : p c = true) (h : ∀ d ∈ name, p d = false) :
    (cutFrom p piece (s ++ c :: name)).getLast? = some name := by
  induction s generalizing piece with
  | nil =>
    rw [List.nil_append, cutFrom, if_pos hc, cutFrom_eq_singleton h]
    rfl
  | cons d rest ih =>
    rw [List.cons_append, cutFrom]
    split
    · rw [List.getLast?_cons_of_ne_nil (cutFrom_ne_nil p [] _)]
      exact ih
    · exact ih

/-- Nothing is cut at in a text without the separator. -/
theorem beq_eq_false_of_not_mem (h : sep ∉ s) : ∀ c ∈ s, (c == sep) = false :=
  fun _ hc => beq_false_of_ne fun heq => h (heq ▸ hc)

theorem getLast?_cut (h : sep ∉ name) : (cut sep (s ++ sep :: name)).getLast? = some name :=
  getLast?_cutFrom (beq_self_eq_true sep) (beq_eq_false_of_not_mem h)

theorem cut_eq_singleton (h : sep ∉ name) : cut sep name = [name] :=
  cutFrom_eq_singleton (beq_eq_false_of_not_mem h)

theorem cut_append_cons (h : sep ∉ name) (s : List Char) :
    cut sep (name ++ sep :: s) = name :: cut sep s :=
  cutFrom_append_cons (beq_eq_false_of_not_mem h) (beq_self_eq_true sep)

theorem cut_joinWith {pieces : List (List Char)} (hne : pieces ≠ []) (h : ∀ w ∈ pieces, sep ∉ w) :
    cut sep (joinWith [sep] pieces) = pieces :=
  cutWhere_joinWith hne (beq_self_eq_true sep) fun w hw => beq_eq_false_of_not_mem (h w hw)

/-- What is not dropped at the end ends in a character to keep. -/
theorem dropEndWhile_eq_nil_or (p : Char → Bool) (s : List Char) :
    dropEndWhile p s = [] ∨ ∃ t c, dropEndWhile p s = t ++ [c] ∧ p c = false := by
  rw [dropEndWhile]
  rcases h : s.reverse.dropWhile p with _ | ⟨c, rest⟩
  · exact .inl rfl
  · have hc : p c = false := by
      have hhead := List.head?_dropWhile_not p s.reverse
      rw [h] at hhead
      simpa using hhead
    exact .inr ⟨rest.reverse, c, List.reverse_cons, hc⟩

/-- A character to keep is not dropped at the end. -/
theorem dropEndWhile_concat (h : p c = false) :
    dropEndWhile p (s ++ [c]) = s ++ [c] := by
  rw [dropEndWhile, List.reverse_append, List.reverse_singleton, List.singleton_append,
    List.dropWhile_cons_of_neg (by simp [h]), List.reverse_cons, List.reverse_reverse]

/-- Nothing is dropped at the end of a text of characters to keep. -/
theorem dropEndWhile_eq_self (h : ∀ c ∈ s, p c = false) : dropEndWhile p s = s := by
  rcases List.eq_nil_or_concat s with rfl | ⟨front, c, rfl⟩
  · rfl
  · rw [List.concat_eq_append]
    exact dropEndWhile_concat (h c (by simp))

/-- What stands in front of a character to keep is kept at the end. -/
theorem dropEndWhile_append_cons (h : p c = false) (s t : List Char) :
    dropEndWhile p (s ++ c :: t) = s ++ c :: dropEndWhile p t := by
  have hkeep : (c :: s.reverse).dropWhile p = c :: s.reverse :=
    List.dropWhile_cons_of_neg (by simp [h])
  rw [dropEndWhile, List.reverse_append, List.reverse_cons, List.append_assoc,
    List.singleton_append, List.dropWhile_append, hkeep]
  split_ifs with hempty
  · rw [List.isEmpty_iff] at hempty
    simp [dropEndWhile, hempty]
  · simp [dropEndWhile]

end SourceAudit.Text

/-! ## Trimmed texts -/

namespace SourceAudit.Text

variable {c : Char} {s t : List Char}

/-- Nothing is left at the end of a text where everything is dropped. -/
theorem dropEndWhile_eq_nil_iff {p : Char → Bool} :
    dropEndWhile p s = [] ↔ ∀ c ∈ s, p c = true := by
  simp [dropEndWhile, List.dropWhile_eq_nil_iff]

/-- A text of white space is all that trimming makes empty. -/
theorem trim_eq_nil_iff : trim s = [] ↔ ∀ c ∈ s, isBlank c = true := by
  rw [trim, trimWhile, dropEndWhile_eq_nil_iff]
  constructor
  · intro h
    rw [← List.dropWhile_eq_nil_iff]
    by_cases hne : s.dropWhile isBlank = []
    · exact hne
    · -- What is left starts with a character that is no white space.
      have hhead := List.head_dropWhile_not isBlank hne
      rw [h _ (List.head_mem hne)] at hhead
      cases hhead
  · intro h c hc
    exact h c (List.dropWhile_subset _ hc)

/-- White space at the end is trimmed. -/
theorem trim_concat (hc : isBlank c = true) : trim (s ++ [c]) = trim s := by
  have hend : ∀ t, dropEndWhile isBlank (t ++ [c]) = dropEndWhile isBlank t := fun t =>
    dropEndWhile_append fun d hd => by rwa [List.mem_singleton.1 hd]
  rw [trim, trimWhile, List.dropWhile_append]
  split
  · rename_i hempty
    rw [List.isEmpty_iff] at hempty
    rw [trim, trimWhile, hempty, List.dropWhile_cons_of_pos hc, List.dropWhile_nil]
  · rw [hend, trim, trimWhile]

/-- What is trimmed has no white space around it. -/
theorem trim_trim (s : List Char) : trim (trim s) = trim s := by
  have hstart : (trim s).dropWhile isBlank = trim s := by
    rcases htrim : trim s with _ | ⟨c, rest⟩
    · rfl
    · -- The first character is that of the text without white space in front.
      obtain ⟨more, hmore⟩ : trim s <+: s.dropWhile isBlank := dropEndWhile_prefix _ _
      have hkeep := List.head?_dropWhile_not isBlank s
      rw [← hmore, htrim] at hkeep
      exact List.dropWhile_cons_of_neg (by simpa using hkeep)
  have hend : dropEndWhile isBlank (trim s) = trim s := by
    rw [trim, trimWhile, dropEndWhile, dropEndWhile, List.reverse_reverse,
      List.dropWhile_idempotent]
  calc trim (trim s) = dropEndWhile isBlank ((trim s).dropWhile isBlank) := rfl
    _ = dropEndWhile isBlank (trim s) := by rw [hstart]
    _ = trim s := hend

/-- From the first character that is no white space on only the end is trimmed. -/
theorem trim_cons (hc : isBlank c = false) (t : List Char) :
    trim (c :: t) = c :: dropEndWhile isBlank t := by
  rw [trim, trimWhile, List.dropWhile_cons_of_neg (by simp [hc])]
  exact dropEndWhile_append_cons hc [] t

/-- White space at the start is trimmed. -/
theorem trim_blank_cons (hc : isBlank c = true) (t : List Char) : trim (c :: t) = trim t := by
  rw [trim, trimWhile, List.dropWhile_cons_of_pos hc, ← trimWhile, ← trim]

/-- A text before a character that is no white space is trimmed at its start only. -/
theorem trim_append_cons (hc : isBlank c = false) (s t : List Char) :
    trim (s ++ c :: t) = s.dropWhile isBlank ++ c :: dropEndWhile isBlank t := by
  have hstart : (s ++ c :: t).dropWhile isBlank = s.dropWhile isBlank ++ c :: t := by
    rw [List.dropWhile_append, List.dropWhile_cons_of_neg (by simp [hc])]
    split
    · rename_i hempty
      rw [List.isEmpty_iff.1 hempty, List.nil_append]
    · rfl
  rw [trim, trimWhile, hstart, dropEndWhile_append_cons hc]

/-- Nothing is dropped at the end of a text of characters to keep that others stand behind. -/
theorem dropEndWhile_append_of_neg {p : Char → Bool} (h : ∀ c ∈ s, p c = false) (t : List Char) :
    dropEndWhile p (s ++ t) = s ++ dropEndWhile p t := by
  rcases List.eq_nil_or_concat s with rfl | ⟨front, c, rfl⟩
  · rfl
  · rw [List.concat_eq_append, List.append_assoc, List.singleton_append,
      dropEndWhile_append_cons (h c (by simp)), List.append_assoc, List.singleton_append]

/-- What follows a text without white space is trimmed at its end only. -/
theorem trim_append_of_not_blank (h : ∀ c ∈ s, isBlank c = false) (hne : s ≠ []) (t : List Char) :
    trim (s ++ t) = s ++ dropEndWhile isBlank t := by
  obtain ⟨c, rest, rfl⟩ := List.exists_cons_of_ne_nil hne
  obtain ⟨hc, hrest⟩ := List.forall_mem_cons.1 h
  rw [List.cons_append, trim_cons hc, dropEndWhile_append_of_neg hrest, List.cons_append]

/-- Nothing in front of a character to keep is dropped at the end. -/
theorem dropEndWhile_append_of_exists {p : Char → Bool} (h : ∃ c ∈ t, p c = false) (s : List Char) :
    dropEndWhile p (s ++ t) = s ++ dropEndWhile p t := by
  obtain ⟨c, hmem, hc⟩ := h
  obtain ⟨before, after, rfl⟩ := List.append_of_mem hmem
  rw [← List.append_assoc, dropEndWhile_append_cons hc, dropEndWhile_append_cons hc,
    List.append_assoc]

/-- What is trimmed at its end is trimmed no further there. -/
theorem trim_dropEndWhile (h : ∃ c ∈ s, isBlank c = false) :
    trim (dropEndWhile isBlank s) = trim s := by
  obtain ⟨c, hmem, hc⟩ := h
  obtain ⟨before, after, rfl⟩ := List.append_of_mem hmem
  have hend : dropEndWhile isBlank (dropEndWhile isBlank after) = dropEndWhile isBlank after := by
    rw [dropEndWhile, dropEndWhile, List.reverse_reverse, List.dropWhile_idempotent]
  rw [dropEndWhile_append_cons hc, trim_append_cons hc, trim_append_cons hc, hend]

/-- What is trimmed at its start is trimmed no further there. -/
theorem trim_dropWhile (s : List Char) : trim (s.dropWhile isBlank) = trim s := by
  rw [trim, trimWhile, List.dropWhile_idempotent, ← trimWhile, ← trim]

/-- What is left of a text is a part of it. -/
theorem mem_of_mem_trim (h : c ∈ trim s) : c ∈ s :=
  (List.dropWhile_sublist isBlank).mem ((dropEndWhile_sublist isBlank _).mem h)

/-- A character that is no white space is not trimmed. -/
theorem mem_trim (hc : c ∈ s) (hblank : isBlank c = false) : c ∈ trim s := by
  have hkeep : ∀ {t : List Char}, c ∈ t → c ∈ t.dropWhile isBlank := by
    intro t ht
    rw [← List.takeWhile_append_dropWhile (p := isBlank) (l := t)] at ht
    rcases List.mem_append.1 ht with ht | ht
    · rw [List.mem_takeWhile_imp ht] at hblank
      cases hblank
    · exact ht
  rw [trim, trimWhile, dropEndWhile, List.mem_reverse]
  exact hkeep (List.mem_reverse.2 (hkeep hc))

/-- What is trimmed starts with what it starts with when it is trimmed at its start. -/
theorem head?_trim (s : List Char) : (trim s).head? = (trimStart s).head? := by
  rw [trim, trimWhile, ← trimStart]
  rcases hstart : trimStart s with _ | ⟨c, rest⟩
  · rfl
  · have hc : isBlank c = false := by
      have hkeep := List.head?_dropWhile_not isBlank s
      rw [← trimStart, hstart] at hkeep
      simpa using hkeep
    rw [← List.nil_append (c :: rest), dropEndWhile_append_cons hc]
    rfl

/-- A text is trimmed to what stands in it without white space around it. -/
theorem trim_eq_iff (h : ∀ c ∈ t, isBlank c = false) :
    trim s = t ↔ ∃ space, (∀ c ∈ space, isBlank c = true) ∧ trimStart s = t ++ space := by
  rw [trim, trimWhile, ← trimStart]
  constructor
  · rintro rfl
    refine ⟨((trimStart s).reverse.takeWhile isBlank).reverse, fun c hc =>
      List.mem_takeWhile_imp (List.mem_reverse.1 hc), ?_⟩
    rw [dropEndWhile, ← List.reverse_append, List.takeWhile_append_dropWhile, List.reverse_reverse]
  · rintro ⟨space, hspace, hstart⟩
    rw [hstart, dropEndWhile_append hspace, dropEndWhile_eq_self h]

end SourceAudit.Text
