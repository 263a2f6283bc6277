import SourceAudit.Proofs.Pattern.Extent

/-!
# What a pattern prefers

`Prefers` follows the search along the choices that it makes first: runs as long as they go, the left
side of a choice, one more round. Where the text goes on, what is refused there counts too, for a right
side is preferred only if the left one is refused. If the continuation accepts the spot at the end of
this path, the search takes no other (`Prefers.attempt`), and so the match that is found, with its
groups, is known exactly (`Prefers.matchAt`).

What is refused is known from what a pattern reads (`refuses_of_reads`), often from the first character
that is no white space (`refuses_of_leads`). A pattern that asks for the start of the text is found
there or nowhere (`find?_eq_matchAt`).
-/

namespace SourceAudit.Pattern

open Text (isBlank)

/-- However the search goes on, it comes to nothing at this place. -/
def Refuses (p : Pattern) (before : Option Char) (rest : List Char) : Prop :=
  ∀ ⦃β : Type⦄ (groups : List (Nat × List Char)) (k : Spot → Option β),
    p.attempt ⟨before, rest, groups⟩ k = none

/-- Behind the character `before` and in front of `rest` the pattern takes this text first of all, and
its groups keep these texts, latest first. -/
inductive Prefers :
    Pattern → Option Char → List Char → List Char → List (Nat × List Char) → Prop
  | nothing {before : Option Char} {rest : List Char} : Prefers nothing before [] rest []
  | one {before : Option Char} {rest : List Char} {accepts : Char → Bool} {c : Char} :
    accepts c = true → Prefers (one accepts) before [c] rest []
  | many {before : Option Char} {text rest : List Char} {accepts : Char → Bool} :
    (∀ c ∈ text, accepts c = true) → (∀ c ∈ rest.head?, accepts c = false) →
    Prefers (many accepts) before text rest []
  | start {rest : List Char} : Prefers start none [] rest []
  | finish {before : Option Char} : Prefers finish before [] [] []
  | wordEdge {before : Option Char} {rest : List Char} :
    (before.any Text.isWord != rest.head?.any Text.isWord) = true →
    Prefers wordEdge before [] rest []
  | seq {before : Option Char} {text text' rest : List Char} {groups groups' : List (Nat × List Char)}
    {p q : Pattern} :
    Prefers p before text (text' ++ rest) groups →
    Prefers q (text.getLast?.or before) text' rest groups' →
    Prefers (seq p q) before (text ++ text') rest (groups' ++ groups)
  | left {before : Option Char} {text rest : List Char} {groups : List (Nat × List Char)}
    {p q : Pattern} :
    Prefers p before text rest groups → Prefers (alt p q) before text rest groups
  | right {before : Option Char} {text rest : List Char} {groups : List (Nat × List Char)}
    {p q : Pattern} :
    p.Refuses before (text ++ rest) → Prefers q before text rest groups →
    Prefers (alt p q) before text rest groups
  | rest {before : Option Char} {rest : List Char} {p : Pattern} :
    p.Refuses before rest → Prefers (repeated p) before [] rest []
  | round {before : Option Char} {text text' rest : List Char}
    {groups groups' : List (Nat × List Char)} {p : Pattern} :
    text ≠ [] → Prefers p before text (text' ++ rest) groups →
    Prefers (repeated p) (text.getLast?.or before) text' rest groups' →
    Prefers (repeated p) before (text ++ text') rest (groups' ++ groups)
  | group {before : Option Char} {text rest : List Char} {groups : List (Nat × List Char)} {n : Nat}
    {p : Pattern} :
    Prefers p before text rest groups → Prefers (group n p) before text rest ((n, text) :: groups)

section Attempt

variable {β : Type} {p : Pattern} {before : Option Char} {text rest : List Char}
  {groups : List (Nat × List Char)}

/-- The longest run is tried first. -/
theorem attemptRun_append {accepts : Char → Bool} {k : Spot → Option β} {b : β}
    (hall : ∀ c ∈ text, accepts c = true) (hstop : ∀ c ∈ rest.head?, accepts c = false)
    (hk : k ⟨text.getLast?.or before, rest, groups⟩ = some b) :
    attemptRun accepts groups k before (text ++ rest) = some b := by
  induction text generalizing before with
  | nil =>
    rcases rest with _ | ⟨c, more⟩
    · exact hk
    · rw [List.nil_append, attemptRun, if_neg (by simp [hstop c rfl])]
      exact hk
  | cons c more ih =>
    obtain ⟨hc, hmore⟩ := List.forall_mem_cons.1 hall
    have hlast : (c :: more).getLast?.or before = more.getLast?.or (some c) :=
      getLast?_append_or [c] more before
    rw [hlast] at hk
    rw [List.cons_append, attemptRun, if_pos hc, ih hmore hk]

/-- If the continuation accepts the spot behind what is preferred, the search comes to that. -/
theorem Prefers.attempt (h : p.Prefers before text rest groups) (kept : List (Nat × List Char))
    {k : Spot → Option β} {b : β} (hk : k ⟨text.getLast?.or before, rest, groups ++ kept⟩ = some b) :
    p.attempt ⟨before, text ++ rest, kept⟩ k = some b := by
  -- Rounds are tried with a bound, and whatever the bound is, it is not reached.
  suffices hrounds : p.attempt ⟨before, text ++ rest, kept⟩ k = some b ∧
      ∀ body, p = repeated body → ∀ n, (text ++ rest).length ≤ n →
        attemptRounds (fun t next => body.attempt t next) k n ⟨before, text ++ rest, kept⟩ = some b
    from hrounds.1
  induction h generalizing kept k b with
  | nothing => exact ⟨hk, fun _ h => by cases h⟩
  | one hc => exact ⟨(if_pos hc).trans hk, fun _ h => by cases h⟩
  | many hall hstop => exact ⟨attemptRun_append hall hstop hk, fun _ h => by cases h⟩
  | start => exact ⟨hk, fun _ h => by cases h⟩
  | finish => exact ⟨hk, fun _ h => by cases h⟩
  | wordEdge hedge => exact ⟨(if_pos hedge).trans hk, fun _ h => by cases h⟩
  | seq _ _ ihp ihq =>
    refine ⟨?_, fun _ h => by cases h⟩
    rw [getLast?_append_or, List.append_assoc] at hk
    rw [List.append_assoc, Pattern.attempt]
    exact (ihp kept (ihq _ hk).1).1
  | left _ ih =>
    refine ⟨?_, fun _ h => by cases h⟩
    rw [Pattern.attempt, (ih kept hk).1]
  | right hrefuses _ ih =>
    refine ⟨?_, fun _ h => by cases h⟩
    rw [Pattern.attempt, hrefuses]
    exact (ih kept hk).1
  | @rest before rest p hrefuses =>
    have hnone : ∀ n body, repeated p = repeated body →
        attemptRounds (fun t next => body.attempt t next) k n ⟨before, rest, kept⟩ = some b := by
      rintro n body ⟨⟩
      rcases n with _ | n
      · exact hk
      · rw [attemptRounds, hrefuses]
        exact hk
    exact ⟨hnone _ _ rfl, fun body hbody n _ => hnone n body hbody⟩
  | @round before text text' rest groups groups' p hne _ _ ihp ihq =>
    rw [getLast?_append_or, List.append_assoc] at hk
    have hsome : ∀ n body, repeated p = repeated body → (text ++ text' ++ rest).length ≤ n →
        attemptRounds (fun t next => body.attempt t next) k n
          ⟨before, text ++ text' ++ rest, kept⟩ = some b := by
      rintro n body ⟨⟩ hn
      have hpos : 0 < text.length := List.length_pos_iff.2 hne
      rw [List.append_assoc, List.length_append] at hn
      obtain ⟨m, rfl⟩ : ∃ m, n = m + 1 := ⟨n - 1, by omega⟩
      have hlater := (ihq _ hk).2 p rfl m (by omega)
      have hlength : (text ++ (text' ++ rest)).length = text.length + (text' ++ rest).length :=
        List.length_append
      have hshort : (text' ++ rest).length < (text ++ (text' ++ rest)).length := by omega
      have hround := (ihp kept (k := fun t => if t.rest.length < (text ++ (text' ++ rest)).length then
        attemptRounds (fun t next => p.attempt t next) k m t else none)
        ((if_pos hshort).trans hlater)).1
      rw [List.append_assoc, attemptRounds, hround]
    exact ⟨hsome _ _ rfl (Nat.le_refl _), fun body hbody n hn => hsome n body hbody hn⟩
  | group _ ih =>
    refine ⟨?_, fun _ h => by cases h⟩
    rw [Pattern.attempt]
    refine (ih kept ?_).1
    dsimp only
    rw [upTo_of_rest rfl]
    exact hk

end Attempt

section Build

variable {p : Pattern} {before : Option Char} {text rest : List Char} {accepts : Char → Bool}

/-- The second pattern may take all that the first one leaves. -/
theorem Prefers.seq_all {q : Pattern} {text' : List Char} {groups groups' : List (Nat × List Char)}
    (hp : p.Prefers before text text' groups)
    (hq : q.Prefers (text.getLast?.or before) text' [] groups') :
    (Pattern.seq p q).Prefers before (text ++ text') [] (groups' ++ groups) :=
  .seq (by rwa [List.append_nil]) hq

/-- A literal text is taken where it stands. -/
theorem Prefers.lit (text : String) : (lit text).Prefers before text.toList rest [] := by
  have hchain : ∀ (w : List Char) (before : Option Char),
      (chain (w.map fun c => Pattern.one (· == c))).Prefers before w rest [] := by
    intro w
    induction w with
    | nil => exact fun _ => .nothing
    | cons c more ih =>
      intro before
      have hc : (Pattern.one (· == c)).Prefers before [c] (more ++ rest) [] := .one (beq_self_eq_true c)
      cases more with
      | nil => exact .one (beq_self_eq_true c)
      | cons d more => exact hc.seq (ih _)
  exact hchain text.toList before

/-- A run that is not empty is taken where it ends. -/
theorem Prefers.some1 (hne : text ≠ []) (hall : ∀ c ∈ text, accepts c = true)
    (hstop : ∀ c ∈ rest.head?, accepts c = false) : (some1 accepts).Prefers before text rest [] := by
  obtain ⟨c, more, rfl⟩ := List.exists_cons_of_ne_nil hne
  obtain ⟨hc, hmore⟩ := List.forall_mem_cons.1 hall
  have hone : (Pattern.one accepts).Prefers before [c] (more ++ rest) [] := .one hc
  exact hone.seq (.many hmore hstop)

/-- What is optional is left out where it is refused. -/
theorem Prefers.absent (h : p.Refuses before rest) : (optional p).Prefers before [] rest [] :=
  .right h .nothing

end Build

section Found

variable {p : Pattern} {before : Option Char} {text rest : List Char}
  {groups : List (Nat × List Char)}

/-- What is preferred is the match. -/
theorem Prefers.matchAt (h : p.Prefers before text rest groups) :
    p.matchAt before (text ++ rest) = some ⟨text, groups, text.getLast?.or before, rest⟩ := by
  have hfound := h.attempt [] (k := fun t =>
    some (⟨Spot.upTo ⟨before, text ++ rest, []⟩ t, t.groups, t.before, t.rest⟩ : Found)) rfl
  rw [upTo_of_rest rfl, List.append_nil] at hfound
  exact hfound

/-- Where a pattern is refused there is no match. -/
theorem Refuses.matchAt_eq_none (h : p.Refuses before rest) : p.matchAt before rest = none :=
  h [] _

/-- The pattern asks for the start of the text before all else. -/
def Anchored : Pattern → Prop
  | start => True
  | seq p _ => p.Anchored
  | _ => False

/-- A pattern that asks for the start of the text is found there or nowhere. -/
theorem find?_eq_matchAt (h : p.Anchored) (text : List Char) :
    p.find? text = p.matchAt none text := by
  have hrefuses : ∀ {β : Type} (c : Char) (s : Spot) (k : Spot → Option β),
      s.before = some c → p.attempt s k = none := by
    intro β c s k hs
    induction p generalizing k with
    | start => exact if_neg (by simp [hs])
    | seq p q ihp _ => exact ihp h _
    | nothing | one | many | finish | wordEdge | alt | repeated | group => cases h
  have hlater : ∀ (rest : List Char) (c : Char), p.findFrom (some c) rest = none := by
    intro rest
    induction rest with
    | nil => exact fun c => hrefuses c _ _ rfl
    | cons d more ih =>
      intro c
      rw [findFrom, Pattern.matchAt, hrefuses c _ _ rfl]
      exact ih d
  rcases text with _ | ⟨c, rest⟩
  · rfl
  · rw [find?, findFrom, hlater]
    rcases p.matchAt none (c :: rest) with _ | f <;> rfl

/-- What is preferred at the start and takes the whole text is what is found. -/
theorem Prefers.find? (h : p.Prefers none text [] groups) (hp : p.Anchored) :
    p.find? text = some ⟨text, groups, text.getLast?.or none, []⟩ := by
  have hmatch := h.matchAt
  rw [List.append_nil] at hmatch
  rw [find?_eq_matchAt hp, hmatch]

/-- What is refused at the start is not found. -/
theorem Refuses.find?_eq_none (h : p.Refuses none text) (hp : p.Anchored) : p.find? text = none := by
  rw [find?_eq_matchAt hp, h.matchAt_eq_none]

end Found

section Refusal

variable {p q : Pattern} {before : Option Char} {rest : List Char} {d : Char}

/-- Where nothing stands that the pattern reads, it is refused. -/
theorem refuses_of_reads (h : ∀ text groups, p.Reads text groups → ¬ text <+: rest) :
    p.Refuses before rest := by
  intro β groups k
  rcases hattempt : p.attempt ⟨before, rest, groups⟩ k with _ | b
  · rfl
  · obtain ⟨t, ⟨text, kept, hreads, hrest, -⟩, -⟩ := exists_spans_of_attempt hattempt
    exact absurd ⟨t.rest, hrest.symm⟩ (h text kept hreads)

/-- All that the pattern reads has this character, with nothing but white space before it. -/
def Leads (d : Char) (p : Pattern) : Prop :=
  ∀ text groups, p.Reads text groups →
    ∃ space more, text = space ++ d :: more ∧ ∀ c ∈ space, isBlank c = true

/-- A literal text is read as it is. -/
theorem eq_of_reads_lit {w : String} {text : List Char} {groups : List (Nat × List Char)}
    (h : (lit w).Reads text groups) : text = w.toList := by
  have hchain : ∀ (w : List Char) (text : List Char) (groups : List (Nat × List Char)),
      (chain (w.map fun c => one (· == c))).Reads text groups → text = w := by
    intro w
    induction w with
    | nil =>
      intro text groups h
      cases h
      rfl
    | cons c more ih =>
      intro text groups h
      cases more with
      | nil =>
        cases h with
        | one hc => rw [eq_of_beq hc]
      | cons d more =>
        cases h with
        | seq hfirst hmore =>
          cases hfirst with
          | one hc => rw [ih _ _ hmore, eq_of_beq hc, List.singleton_append]
  exact hchain _ _ _ h

theorem leads_lit {w : String} {more : List Char} (h : w.toList = d :: more) : (lit w).Leads d :=
  fun _ _ hreads => ⟨[], more, by rw [eq_of_reads_lit hreads, h, List.nil_append],
    List.forall_mem_nil _⟩

theorem Leads.append (h : p.Leads d) (q : Pattern) : (p ++ q).Leads d := by
  intro text groups hreads
  obtain ⟨first, second, _, _, rfl, -, hp, -⟩ := reads_seq_iff.1 hreads
  obtain ⟨space, more, rfl, hspace⟩ := h _ _ hp
  exact ⟨space, more ++ second, by rw [List.append_assoc, List.cons_append], hspace⟩

theorem Leads.after (h : q.Leads d) (hp : p.Takes fun c => isBlank c = true) :
    (p ++ q).Leads d := by
  intro text groups hreads
  obtain ⟨first, second, _, _, rfl, -, hfirst, hq⟩ := reads_seq_iff.1 hreads
  obtain ⟨space, more, rfl, hspace⟩ := h _ _ hq
  refine ⟨first ++ space, more, by rw [List.append_assoc], fun c hc => ?_⟩
  rcases List.mem_append.1 hc with hc | hc
  · exact hfirst.forall_mem hp c hc
  · exact hspace c hc

/-- A pattern is refused where another character comes first, white space apart. -/
theorem refuses_of_leads (h : p.Leads d) (hd : isBlank d = false)
    (hrest : (rest.dropWhile isBlank).head? ≠ some d) : p.Refuses before rest := by
  refine refuses_of_reads fun text groups hreads hprefix => hrest ?_
  obtain ⟨space, more, rfl, hspace⟩ := h _ _ hreads
  obtain ⟨later, rfl⟩ := hprefix
  rw [List.append_assoc, List.dropWhile_append_of_pos hspace, List.cons_append,
    List.dropWhile_cons_of_neg (by simp [hd])]
  rfl

end Refusal

end SourceAudit.Pattern
