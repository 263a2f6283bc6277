import SourceAudit.Proofs.Pattern.Reading

/-!
# The extent of what a pattern reads

Which characters a pattern takes follows from its character classes (`Reads.forall_mem`), and how
many of a kind it takes follows from the number of its single characters, as long as its runs are of
other kinds (`Reads.countP_le`). Both ask something of all classes of a pattern; `ClassesIn` says so,
with a lemma for every builder.
-/

namespace SourceAudit.Pattern

/-- The classes of single characters satisfy `single`, and those of runs and of what is repeated
satisfy `run`. -/
def ClassesIn (single run : (Char → Bool) → Prop) : Pattern → Prop
  | nothing | start | finish | wordEdge => True
  | one accepts => single accepts
  | many accepts => run accepts
  | seq p q => p.ClassesIn single run ∧ q.ClassesIn single run
  | alt p q => p.ClassesIn single run ∧ q.ClassesIn single run
  | repeated p => p.ClassesIn run run
  | group _ p => p.ClassesIn single run

/-- The members of a class satisfy `P`. -/
def Within (P : Char → Prop) (accepts : Char → Bool) : Prop :=
  ∀ c, accepts c = true → P c

/-- Every character that the pattern may take satisfies `P`. -/
abbrev Takes (P : Char → Prop) (p : Pattern) : Prop :=
  p.ClassesIn (Within P) (Within P)

/-- The runs of the pattern are of characters that do not count. -/
abbrev RunsOver (counts : Char → Bool) (p : Pattern) : Prop :=
  p.ClassesIn (fun _ => True) (Within fun c => counts c = false)

/-- The characters that the pattern takes outside of runs, at most. -/
def singles : Pattern → Nat
  | nothing | start | finish | wordEdge | many _ | repeated _ => 0
  | one _ => 1
  | seq p q => p.singles + q.singles
  | alt p q => Nat.max p.singles q.singles
  | group _ p => p.singles

section Reads

variable {p : Pattern} {text : List Char} {groups : List (Nat × List Char)}

/-- The characters that are read are members of the classes. -/
theorem Reads.forall_mem {P : Char → Prop} (h : p.Reads text groups) (htakes : p.Takes P) :
    ∀ c ∈ text, P c := by
  induction h with
  | nothing | start | finish | wordEdge | rest => simp
  | one hc => simpa using htakes _ hc
  | many hall => exact fun c hc => htakes c (hall c hc)
  | seq _ _ ihp ihq =>
    intro c hc
    rcases List.mem_append.1 hc with hc | hc
    · exact ihp htakes.1 c hc
    · exact ihq htakes.2 c hc
  | left _ ih => exact ih htakes.1
  | right _ ih => exact ih htakes.2
  | round _ _ ihp ihq =>
    intro c hc
    rcases List.mem_append.1 hc with hc | hc
    · exact ihp htakes c hc
    · exact ihq htakes c hc
  | group _ ih => exact ih htakes

/-- The characters that count are among those that are taken outside of runs. -/
theorem Reads.countP_le {counts : Char → Bool} (h : p.Reads text groups)
    (hruns : p.RunsOver counts) : text.countP counts ≤ p.singles := by
  induction h with
  | nothing | start | finish | wordEdge | rest => exact Nat.zero_le _
  | one => exact List.countP_le_length
  -- What a run takes is not counted.
  | many hall =>
    have hnone := List.countP_eq_zero.2 fun c hc => Bool.eq_false_iff.1 (hruns c (hall c hc))
    exact Nat.le_of_eq hnone
  | seq _ _ ihp ihq =>
    rw [List.countP_append]
    exact Nat.add_le_add (ihp hruns.1) (ihq hruns.2)
  | left _ ih => exact Nat.le_trans (ih hruns.1) (Nat.le_max_left ..)
  | right _ ih => exact Nat.le_trans (ih hruns.2) (Nat.le_max_right ..)
  | round hp _ _ ihq =>
    -- Nothing that is repeated counts, in whatever round.
    have hnone := List.countP_eq_zero.2 fun c hc =>
      Bool.eq_false_iff.1 (hp.forall_mem hruns c hc)
    rw [List.countP_append, hnone, Nat.zero_add]
    exact ihq hruns
  | group _ ih => exact ih hruns

/-- A pattern without runs takes no more characters than its single ones. -/
theorem Reads.length_le (h : p.Reads text groups) (hruns : p.RunsOver fun _ => true) :
    text.length ≤ p.singles := by
  have hcount := h.countP_le hruns
  rwa [List.countP_true] at hcount

/-- The characters that a group keeps are members of the classes of the bodies with its number. -/
theorem Reads.forall_group {P : Char → Prop} {f : Found} (h : p.Reads f.text f.groups) {n : Nat}
    (hp : ∀ body ∈ p.bodies n, body.Takes P) : ∀ c ∈ f.group n, P c := by
  rcases h.group_cases n with hnil | ⟨body, hbody, kept, hreads⟩
  · rw [hnil]
    exact List.forall_mem_nil _
  · exact hreads.forall_mem (hp body hbody)

/-- The characters that count in what a group keeps are among the single ones of such a body. -/
theorem Reads.countP_group_le {counts : Char → Bool} {f : Found} (h : p.Reads f.text f.groups)
    {n m : Nat} (hp : ∀ body ∈ p.bodies n, body.RunsOver counts ∧ body.singles ≤ m) :
    (f.group n).countP counts ≤ m := by
  rcases h.group_cases n with hnil | ⟨body, hbody, kept, hreads⟩
  · rw [hnil]
    exact Nat.zero_le m
  · exact Nat.le_trans (hreads.countP_le (hp body hbody).1) (hp body hbody).2

end Reads

section Build

variable {single run : (Char → Bool) → Prop} {P : Char → Prop} {p q : Pattern}

@[simp] theorem classesIn_append :
    (p ++ q).ClassesIn single run ↔ p.ClassesIn single run ∧ q.ClassesIn single run :=
  Iff.rfl

@[simp] theorem classesIn_one {accepts : Char → Bool} :
    (one accepts).ClassesIn single run ↔ single accepts :=
  Iff.rfl

@[simp] theorem classesIn_many {accepts : Char → Bool} :
    (many accepts).ClassesIn single run ↔ run accepts :=
  Iff.rfl

@[simp] theorem classesIn_start : start.ClassesIn single run :=
  trivial

@[simp] theorem classesIn_wordEdge : wordEdge.ClassesIn single run :=
  trivial

@[simp] theorem classesIn_nothing : nothing.ClassesIn single run :=
  trivial

@[simp] theorem classesIn_group {n : Nat} :
    (group n p).ClassesIn single run ↔ p.ClassesIn single run :=
  Iff.rfl

@[simp] theorem classesIn_repeated :
    (repeated p).ClassesIn single run ↔ p.ClassesIn run run :=
  Iff.rfl

@[simp] theorem classesIn_optional :
    (optional p).ClassesIn single run ↔ p.ClassesIn single run :=
  and_iff_left trivial

@[simp] theorem classesIn_gap : gap.ClassesIn single run ↔ run Text.isBlank :=
  Iff.rfl

@[simp] theorem classesIn_some1 {accepts : Char → Bool} :
    (some1 accepts).ClassesIn single run ↔ single accepts ∧ run accepts :=
  Iff.rfl

@[simp] theorem classesIn_chain {ps : List Pattern} :
    (chain ps).ClassesIn single run ↔ ∀ p ∈ ps, p.ClassesIn single run := by
  induction ps with
  | nil => simp [chain]
  | cons p rest ih =>
    cases rest with
    | nil => simp [chain]
    | cons q rest =>
      -- A chain of two or more is its first pattern and then the chain of the others.
      rw [List.forall_mem_cons, ← ih]
      rfl

@[simp] theorem classesIn_choice {ps : List Pattern} (hnone : single fun _ => false) :
    (choice ps).ClassesIn single run ↔ ∀ p ∈ ps, p.ClassesIn single run := by
  induction ps with
  | nil => simpa [choice] using hnone
  | cons p rest ih =>
    cases rest with
    | nil => simp [choice]
    | cons q rest =>
      rw [List.forall_mem_cons, ← ih]
      rfl

@[simp] theorem classesIn_lit {text : String} :
    (lit text).ClassesIn single run ↔ ∀ c ∈ text.toList, single (· == c) := by
  simp [lit]

@[simp] theorem classesIn_anyCase {text : String} :
    (anyCase text).ClassesIn single run ↔ ∀ c ∈ text.toList, single (sameLetter c) := by
  simp [anyCase]

@[simp] theorem classesIn_words {texts : List String} (hnone : single fun _ => false) :
    (words texts).ClassesIn single run ↔ ∀ text ∈ texts, ∀ c ∈ text.toList, single (· == c) := by
  simp [words, hnone]

@[simp] theorem classesIn_anyCaseWords {texts : List String} (hnone : single fun _ => false) :
    (anyCaseWords texts).ClassesIn single run ↔
      ∀ text ∈ texts, ∀ c ∈ text.toList, single (sameLetter c) := by
  simp [anyCaseWords, hnone]

@[simp] theorem within_none : Within P fun _ => false :=
  fun _ h => nomatch h

@[simp] theorem within_beq {d : Char} : Within P (· == d) ↔ P d := by
  simp [Within]

end Build

end SourceAudit.Pattern
