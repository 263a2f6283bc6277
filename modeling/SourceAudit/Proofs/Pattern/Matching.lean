import Mathlib.Data.List.Forall2
import SourceAudit.Pattern.Build

/-!
# Where a pattern matches

`Reaches` says, without any search, from which spot a pattern matches to which other one. The search
with continuations tries all of these and nothing else, so it succeeds exactly if it can reach a spot
that the continuation accepts (`isSome_attempt_iff`). A pattern occurs in a text exactly if it matches
somewhere in it (`occursIn_iff`).
-/

namespace SourceAudit.Pattern

/-- The pattern matches from one spot to another. -/
inductive Reaches : Pattern → Spot → Spot → Prop
  | nothing {s : Spot} : Reaches nothing s s
  | one {accepts : Char → Bool} {before : Option Char} {c : Char} {rest : List Char}
    {groups : List (Nat × List Char)} : accepts c = true →
    Reaches (one accepts) ⟨before, c :: rest, groups⟩ ⟨some c, rest, groups⟩
  | stop {accepts : Char → Bool} {s : Spot} : Reaches (many accepts) s s
  | more {accepts : Char → Bool} {before : Option Char} {c : Char} {rest : List Char}
    {groups : List (Nat × List Char)} {t : Spot} : accepts c = true →
    Reaches (many accepts) ⟨some c, rest, groups⟩ t →
    Reaches (many accepts) ⟨before, c :: rest, groups⟩ t
  | start {s : Spot} : s.before = none → Reaches start s s
  | finish {s : Spot} : s.rest = [] → Reaches finish s s
  | wordEdge {s : Spot} : s.atWordEdge = true → Reaches wordEdge s s
  | seq {p q : Pattern} {s t u : Spot} : Reaches p s t → Reaches q t u → Reaches (seq p q) s u
  | left {p q : Pattern} {s t : Spot} : Reaches p s t → Reaches (alt p q) s t
  | right {p q : Pattern} {s t : Spot} : Reaches q s t → Reaches (alt p q) s t
  | rest {p : Pattern} {s : Spot} : Reaches (repeated p) s s
  | round {p : Pattern} {s t u : Spot} : Reaches p s t → t.rest.length < s.rest.length →
    Reaches (repeated p) t u → Reaches (repeated p) s u
  | group {n : Nat} {p : Pattern} {s t : Spot} : Reaches p s t →
    Reaches (group n p) s { t with groups := (n, s.upTo t) :: t.groups }

/-- The character before the end of a text and another one behind it. -/
theorem getLast?_append_or (text text' : List Char) (before : Option Char) :
    (text ++ text').getLast?.or before = text'.getLast?.or (text.getLast?.or before) := by
  rw [List.getLast?_append, Option.or_assoc]

section Attempt

variable {β : Type} {p : Pattern} {s t : Spot} {b : β}

/-- A run of accepted characters is all that is tried. -/
theorem reaches_of_attemptRun {accepts : Char → Bool} {groups : List (Nat × List Char)}
    {k : Spot → Option β} {before : Option Char} {rest : List Char}
    (h : attemptRun accepts groups k before rest = some b) :
    ∃ t, (many accepts).Reaches ⟨before, rest, groups⟩ t ∧ k t = some b := by
  induction rest generalizing before with
  | nil => exact ⟨_, .stop, h⟩
  | cons c rest ih =>
    rw [attemptRun] at h
    split at h
    · rename_i hc
      split at h
      · rename_i b' hrun
        obtain rfl := Option.some.inj h
        obtain ⟨t, hreaches, ht⟩ := ih hrun
        exact ⟨t, .more hc hreaches, ht⟩
      · exact ⟨_, .stop, h⟩
    · exact ⟨_, .stop, h⟩

/-- Rounds are tried one after the other. -/
theorem reaches_of_attemptRounds {k : Spot → Option β}
    (hbody : ∀ {s : Spot} {k : Spot → Option β} {b : β},
      p.attempt s k = some b → ∃ t, p.Reaches s t ∧ k t = some b)
    {n : Nat} (h : attemptRounds (fun t next => p.attempt t next) k n s = some b) :
    ∃ t, (repeated p).Reaches s t ∧ k t = some b := by
  induction n generalizing s with
  | zero => exact ⟨s, .rest, h⟩
  | succ n ih =>
    rw [attemptRounds] at h
    split at h
    · rename_i b' hround
      obtain ⟨t, hreaches, ht⟩ := hbody hround
      -- A round that has not moved is given up, so only one that has leads on.
      split at ht
      · rename_i hshorter
        obtain ⟨u, hmore, hu⟩ := ih (ht.trans h)
        exact ⟨u, hreaches.round hshorter hmore, hu⟩
      · cases ht
    · exact ⟨s, .rest, h⟩

/-- Whatever the search comes to, the pattern matches up to a spot that the continuation accepts. -/
theorem exists_reaches_of_attempt {k : Spot → Option β} (h : p.attempt s k = some b) :
    ∃ t, p.Reaches s t ∧ k t = some b := by
  induction p generalizing s k b with
  | nothing => exact ⟨s, .nothing, h⟩
  | one accepts =>
    rcases s with ⟨before, _ | ⟨c, rest⟩, groups⟩
    · cases h
    · rw [attempt] at h
      dsimp only at h
      split at h
      · rename_i hc
        exact ⟨_, .one hc, h⟩
      · cases h
  | many accepts => exact reaches_of_attemptRun h
  | start =>
    rw [attempt] at h
    split at h
    · rename_i hstart
      exact ⟨s, .start (Option.isNone_iff_eq_none.1 hstart), h⟩
    · cases h
  | finish =>
    rw [attempt] at h
    split at h
    · rename_i hfinish
      exact ⟨s, .finish (List.isEmpty_iff.1 hfinish), h⟩
    · cases h
  | wordEdge =>
    rw [attempt] at h
    split at h
    · rename_i hedge
      exact ⟨s, .wordEdge hedge, h⟩
    · cases h
  -- The second pattern is tried within the continuation of the first.
  | seq p q ihp ihq =>
    obtain ⟨t, hp, ht⟩ := ihp h
    obtain ⟨u, hq, hu⟩ := ihq ht
    exact ⟨u, hp.seq hq, hu⟩
  | alt p q ihp ihq =>
    rw [attempt] at h
    split at h
    · rename_i b' hleft
      obtain ⟨t, hp, ht⟩ := ihp hleft
      exact ⟨t, hp.left, ht.trans h⟩
    · obtain ⟨t, hq, ht⟩ := ihq h
      exact ⟨t, hq.right, ht⟩
  | repeated p ih => exact reaches_of_attemptRounds (fun h => ih h) h
  | group n p ih =>
    obtain ⟨t, hp, ht⟩ := ih h
    exact ⟨_, hp.group, ht⟩

/-- If the continuation accepts a spot up to which the pattern matches, the search succeeds. -/
theorem Reaches.isSome_attempt (h : p.Reaches s t) {k : Spot → Option β}
    (hk : (k t).isSome = true) : (p.attempt s k).isSome = true := by
  -- Rounds are tried with a bound, and whatever the bound is, it is not reached.
  suffices hrounds : (p.attempt s k).isSome = true ∧
      ∀ body, p = repeated body → ∀ n, s.rest.length ≤ n →
        (attemptRounds (fun t next => body.attempt t next) k n s).isSome = true from hrounds.1
  induction h generalizing k with
  | nothing => exact ⟨hk, fun _ h => by cases h⟩
  | one hc =>
    refine ⟨?_, fun _ h => by cases h⟩
    rw [attempt]
    dsimp only
    rwa [if_pos hc]
  | @stop accepts s =>
    refine ⟨?_, fun _ h => by cases h⟩
    rcases s with ⟨before, _ | ⟨c, rest⟩, groups⟩
    · exact hk
    · rw [attempt, attemptRun]
      split
      · split
        · rfl
        · exact hk
      · exact hk
  | more hc _ ih =>
    refine ⟨?_, fun _ h => by cases h⟩
    obtain ⟨b, hb⟩ := Option.isSome_iff_exists.1 (ih hk).1
    rw [attempt] at hb
    rw [attempt, attemptRun, if_pos hc, hb]
    rfl
  | start hs =>
    refine ⟨?_, fun _ h => by cases h⟩
    rwa [attempt, if_pos (Option.isNone_iff_eq_none.2 hs)]
  | finish hs =>
    refine ⟨?_, fun _ h => by cases h⟩
    rwa [attempt, if_pos (List.isEmpty_iff.2 hs)]
  | wordEdge hs =>
    refine ⟨?_, fun _ h => by cases h⟩
    rwa [attempt, if_pos hs]
  | seq _ _ ihp ihq => exact ⟨(ihp (ihq hk).1).1, fun _ h => by cases h⟩
  | left _ ih =>
    refine ⟨?_, fun _ h => by cases h⟩
    obtain ⟨b, hb⟩ := Option.isSome_iff_exists.1 (ih hk).1
    rw [attempt, hb]
    rfl
  | right _ ih =>
    refine ⟨?_, fun _ h => by cases h⟩
    rw [attempt]
    split
    · rfl
    · exact (ih hk).1
  | @rest p s =>
    have hhere : ∀ n, (attemptRounds (fun t next => p.attempt t next) k n s).isSome = true := by
      rintro (_ | n)
      · exact hk
      · rw [attemptRounds]
        split
        · rfl
        · exact hk
    refine ⟨hhere _, ?_⟩
    rintro body ⟨⟩ n -
    exact hhere n
  | @round p s t u _ hshorter _ ihp ihq =>
    have hsome : ∀ n, s.rest.length ≤ n →
        (attemptRounds (fun t next => p.attempt t next) k n s).isSome = true := by
      rintro (_ | n) hn
      · omega
      · have hnext := (ihp (k := fun t => if t.rest.length < s.rest.length then
          attemptRounds (fun t next => p.attempt t next) k n t else none) (by
            rw [if_pos hshorter]
            exact (ihq hk).2 p rfl n (by omega))).1
        obtain ⟨b, hb⟩ := Option.isSome_iff_exists.1 hnext
        rw [attemptRounds, hb]
        rfl
    refine ⟨hsome _ (Nat.le_refl _), ?_⟩
    rintro body ⟨⟩ n hn
    exact hsome n hn
  | group _ ih => exact ⟨(ih hk).1, fun _ h => by cases h⟩

/-- The search succeeds exactly if the pattern matches up to a spot that the continuation accepts. -/
theorem isSome_attempt_iff {k : Spot → Option β} :
    (p.attempt s k).isSome = true ↔ ∃ t, p.Reaches s t ∧ (k t).isSome = true := by
  constructor
  · intro h
    obtain ⟨b, hb⟩ := Option.isSome_iff_exists.1 h
    obtain ⟨t, hreaches, ht⟩ := exists_reaches_of_attempt hb
    exact ⟨t, hreaches, by rw [ht, Option.isSome_some]⟩
  · rintro ⟨t, hreaches, ht⟩
    exact hreaches.isSome_attempt ht

end Attempt

section Occurs

variable {p : Pattern} {text : List Char}

/-- A pattern is found from a place on exactly if it matches there or later. -/
theorem isSome_findFrom_iff {before : Option Char} :
    (p.findFrom before text).isSome = true ↔
      ∃ front rest t, text = front ++ rest ∧
        p.Reaches ⟨front.getLast?.or before, rest, []⟩ t := by
  have hhere : ∀ {before : Option Char} {rest : List Char},
      (p.matchAt before rest).isSome = true ↔ ∃ t, p.Reaches ⟨before, rest, []⟩ t := by
    intro before rest
    rw [matchAt, isSome_attempt_iff]
    simp
  induction text generalizing before with
  | nil =>
    rw [findFrom, hhere]
    constructor
    · rintro ⟨t, ht⟩
      exact ⟨[], [], t, rfl, ht⟩
    · rintro ⟨front, rest, t, htext, ht⟩
      obtain ⟨rfl, rfl⟩ := List.append_eq_nil_iff.1 htext.symm
      exact ⟨t, ht⟩
  | cons c text ih =>
    -- The pattern matches at the first place, or at a later one, which comes behind `c`.
    have hlast : ∀ front : List Char,
        (c :: front).getLast?.or before = front.getLast?.or (some c) := fun front =>
      getLast?_append_or [c] front before
    have hsplit : (∃ front rest t, c :: text = front ++ rest ∧
          p.Reaches ⟨front.getLast?.or before, rest, []⟩ t) ↔
        (∃ t, p.Reaches ⟨before, c :: text, []⟩ t) ∨ ∃ front rest t, text = front ++ rest ∧
          p.Reaches ⟨front.getLast?.or (some c), rest, []⟩ t := by
      constructor
      · rintro ⟨_ | ⟨d, front⟩, rest, t, htext, ht⟩
        · obtain rfl : c :: text = rest := htext
          exact .inl ⟨t, ht⟩
        · obtain ⟨rfl, rfl⟩ := List.cons.inj htext
          rw [hlast] at ht
          exact .inr ⟨front, rest, t, rfl, ht⟩
      · rintro (⟨t, ht⟩ | ⟨front, rest, t, rfl, ht⟩)
        · exact ⟨[], c :: text, t, rfl, ht⟩
        · exact ⟨c :: front, rest, t, rfl, by rwa [hlast]⟩
    have hfind : (p.findFrom before (c :: text)).isSome = true ↔
        (p.matchAt before (c :: text)).isSome = true ∨
          (p.findFrom (some c) text).isSome = true := by
      rw [findFrom]
      rcases p.matchAt before (c :: text) with _ | f
      · simp
      · simp
    exact (hfind.trans (or_congr hhere ih)).trans hsplit.symm

/-- What is found is what the pattern matches somewhere in the text. -/
theorem exists_reaches_of_find? {f : Found} (h : p.find? text = some f) :
    ∃ front rest t, text = front ++ rest ∧ p.Reaches ⟨front.getLast?, rest, []⟩ t ∧
      f.groups = t.groups := by
  have hhere : ∀ {before : Option Char} {rest : List Char},
      p.matchAt before rest = some f → ∃ t, p.Reaches ⟨before, rest, []⟩ t ∧ f.groups = t.groups := by
    intro before rest h
    obtain ⟨t, hreaches, ht⟩ := exists_reaches_of_attempt h
    obtain rfl := Option.some.inj ht
    exact ⟨t, hreaches, rfl⟩
  have hfrom : ∀ before : Option Char, p.findFrom before text = some f →
      ∃ front rest t, text = front ++ rest ∧ p.Reaches ⟨front.getLast?.or before, rest, []⟩ t ∧
        f.groups = t.groups := by
    clear h
    induction text with
    | nil =>
      intro before h
      obtain ⟨t, ht⟩ := hhere h
      exact ⟨[], [], t, rfl, ht⟩
    | cons c rest ih =>
      intro before h
      rw [findFrom] at h
      split at h
      · rename_i f' hmatch
        obtain rfl := Option.some.inj h
        obtain ⟨t, ht⟩ := hhere hmatch
        exact ⟨[], c :: rest, t, rfl, ht⟩
      · obtain ⟨front, rest, t, rfl, ht⟩ := ih (some c) h
        refine ⟨c :: front, rest, t, rfl, ?_⟩
        rwa [← List.singleton_append, getLast?_append_or]
  simpa using hfrom none h

/-- A pattern occurs in a text exactly if it matches somewhere in it. -/
theorem occursIn_iff : p.occursIn text = true ↔
    ∃ front rest t, text = front ++ rest ∧ p.Reaches ⟨front.getLast?, rest, []⟩ t := by
  rw [occursIn, find?, isSome_findFrom_iff]
  simp

end Occurs

/-- A text stands between two spots. -/
structure Spot.Skips (s : Spot) (text : List Char) (t : Spot) : Prop where
  rest : s.rest = text ++ t.rest
  before : t.before = text.getLast?.or s.before
  groups : t.groups = s.groups

section Skips

variable {s t u : Spot} {text text' : List Char}

theorem Spot.skips_nil_iff : s.Skips [] t ↔ t = s := by
  constructor
  · rintro ⟨hrest, hbefore, hgroups⟩
    rcases s with ⟨before, rest, groups⟩
    rcases t with ⟨before', rest', groups'⟩
    obtain rfl : rest = rest' := hrest
    obtain rfl : before' = before := hbefore
    obtain rfl : groups' = groups := hgroups
    rfl
  · rintro rfl
    exact ⟨rfl, rfl, rfl⟩

theorem Spot.Skips.append (h : s.Skips text t) (h' : t.Skips text' u) : s.Skips (text ++ text') u where
  rest := by rw [h.rest, h'.rest, List.append_assoc]
  before := by rw [h'.before, h.before, getLast?_append_or]
  groups := h'.groups.trans h.groups

/-- A text stands between two spots whatever groups have kept. -/
theorem Spot.Skips.withGroups (h : s.Skips text t) (groups : List (Nat × List Char)) :
    Spot.Skips { s with groups := groups } text { t with groups := groups } :=
  ⟨h.rest, h.before, rfl⟩

/-- The spot behind a text. -/
theorem Spot.exists_skips {rest : List Char} (h : s.rest = text ++ rest) :
    ∃ t, s.Skips text t ∧ t.rest = rest :=
  ⟨⟨text.getLast?.or s.before, rest, s.groups⟩, ⟨h, rfl, rfl⟩, rfl⟩

/-- Texts one after the other stand between spots one after the other. -/
theorem Spot.skips_append_iff : s.Skips (text ++ text') u ↔ ∃ t, s.Skips text t ∧ t.Skips text' u := by
  constructor
  · rintro ⟨hrest, hbefore, hgroups⟩
    refine ⟨⟨text.getLast?.or s.before, text' ++ u.rest, s.groups⟩, ⟨?_, rfl, rfl⟩, rfl, ?_, hgroups⟩
    · rw [hrest, List.append_assoc]
    · rw [hbefore, getLast?_append_or]
  · rintro ⟨t, h, h'⟩
    exact h.append h'

end Skips

section Build

variable {p q : Pattern} {s t : Spot} {accepts : Char → Bool}

theorem reaches_append_iff :
    (p ++ q).Reaches s t ↔ ∃ u, p.Reaches s u ∧ q.Reaches u t := by
  constructor
  · intro h
    cases h with
    | seq hp hq => exact ⟨_, hp, hq⟩
  · rintro ⟨u, hp, hq⟩
    exact hp.seq hq

theorem reaches_alt_iff : (alt p q).Reaches s t ↔ p.Reaches s t ∨ q.Reaches s t := by
  constructor
  · intro h
    cases h with
    | left hp => exact .inl hp
    | right hq => exact .inr hq
  · rintro (hp | hq)
    · exact hp.left
    · exact hq.right

theorem reaches_one_iff : (one accepts).Reaches s t ↔ ∃ c, accepts c = true ∧ s.Skips [c] t := by
  constructor
  · intro h
    cases h with
    | one hc => exact ⟨_, hc, rfl, rfl, rfl⟩
  · rintro ⟨c, hc, hrest, hbefore, hgroups⟩
    rcases s with ⟨before, rest, groups⟩
    rcases t with ⟨before', rest', groups'⟩
    obtain rfl : rest = c :: rest' := hrest
    obtain rfl : before' = some c := hbefore
    obtain rfl : groups' = groups := hgroups
    exact .one hc

theorem reaches_start_iff : start.Reaches s t ↔ s.before = none ∧ t = s := by
  constructor
  · intro h
    cases h with
    | start hs => exact ⟨hs, rfl⟩
  · rintro ⟨hs, rfl⟩
    exact .start hs

theorem reaches_wordEdge_iff : wordEdge.Reaches s t ↔ s.atWordEdge = true ∧ t = s := by
  constructor
  · intro h
    cases h with
    | wordEdge hs => exact ⟨hs, rfl⟩
  · rintro ⟨hs, rfl⟩
    exact .wordEdge hs

/-- A group matches what its body does and keeps the text. -/
theorem reaches_group_iff {n : Nat} : (group n p).Reaches s t ↔
    ∃ u, p.Reaches s u ∧ t = { u with groups := (n, s.upTo u) :: u.groups } := by
  constructor
  · intro h
    cases h with
    | group hp => exact ⟨_, hp, rfl⟩
  · rintro ⟨u, hp, rfl⟩
    exact hp.group

/-- A run is a text of accepted characters, however long. -/
theorem reaches_many_iff : (many accepts).Reaches s t ↔
    ∃ text, (∀ c ∈ text, accepts c = true) ∧ s.Skips text t := by
  constructor
  · intro h
    generalize hp : many accepts = p at h
    induction h with
    | @stop accepts' s => exact ⟨[], List.forall_mem_nil _, Spot.skips_nil_iff.2 rfl⟩
    | @more accepts' before c rest groups t hc _ ih =>
      obtain rfl := Pattern.many.inj hp
      obtain ⟨text, hall, hskips⟩ := ih hp
      have hfirst : Spot.Skips ⟨before, c :: rest, groups⟩ [c] ⟨some c, rest, groups⟩ :=
        ⟨rfl, rfl, rfl⟩
      exact ⟨c :: text, List.forall_mem_cons.2 ⟨hc, hall⟩, hfirst.append hskips⟩
    | nothing | one | start | finish | wordEdge | seq | left | right | rest | round | group => cases hp
  · rintro ⟨text, hall, hskips⟩
    induction text generalizing s with
    | nil =>
      obtain rfl := Spot.skips_nil_iff.1 hskips
      exact .stop
    | cons c text ih =>
      obtain ⟨hc, hall⟩ := List.forall_mem_cons.1 hall
      rw [← List.singleton_append, Spot.skips_append_iff] at hskips
      obtain ⟨u, hfirst, hmore⟩ := hskips
      rcases s with ⟨before, rest, groups⟩
      rcases u with ⟨before', rest', groups'⟩
      obtain rfl : rest = c :: rest' := hfirst.rest
      obtain rfl : before' = some c := hfirst.before
      obtain rfl : groups' = groups := hfirst.groups
      exact .more hc (ih hall hmore)

/-- A run that is not empty is a text of one accepted character at least. -/
theorem reaches_some1_iff : (some1 accepts).Reaches s t ↔
    ∃ text, text ≠ [] ∧ (∀ c ∈ text, accepts c = true) ∧ s.Skips text t := by
  rw [some1, reaches_append_iff]
  constructor
  · rintro ⟨u, hone, hmany⟩
    obtain ⟨c, hc, hfirst⟩ := reaches_one_iff.1 hone
    obtain ⟨text, hall, hmore⟩ := reaches_many_iff.1 hmany
    exact ⟨c :: text, List.cons_ne_nil _ _, List.forall_mem_cons.2 ⟨hc, hall⟩, hfirst.append hmore⟩
  · rintro ⟨text, hne, hall, hskips⟩
    obtain ⟨c, text, rfl⟩ := List.exists_cons_of_ne_nil hne
    obtain ⟨hc, hall⟩ := List.forall_mem_cons.1 hall
    rw [← List.singleton_append, Spot.skips_append_iff] at hskips
    obtain ⟨u, hfirst, hmore⟩ := hskips
    exact ⟨u, reaches_one_iff.2 ⟨c, hc, hfirst⟩, reaches_many_iff.2 ⟨text, hall, hmore⟩⟩

/-- Characters that are accepted one by one match one after the other. -/
theorem reaches_chain_one_iff (accepts : Char → Char → Bool) {word : List Char} :
    (chain (word.map fun c => one (accepts c))).Reaches s t ↔
      ∃ text, List.Forall₂ (fun c d => accepts c d = true) word text ∧ s.Skips text t := by
  induction word generalizing s with
  | nil =>
    constructor
    · intro h
      cases h
      exact ⟨[], .nil, Spot.skips_nil_iff.2 rfl⟩
    · rintro ⟨text, htext, hskips⟩
      cases htext
      obtain rfl := Spot.skips_nil_iff.1 hskips
      exact .nothing
  | cons c word ih =>
    have hcons : (chain ((c :: word).map fun c => one (accepts c))).Reaches s t ↔
        ∃ u, (one (accepts c)).Reaches s u ∧
          (chain (word.map fun c => one (accepts c))).Reaches u t := by
      rcases word with _ | ⟨d, word⟩
      · constructor
        · exact fun h => ⟨t, h, .nothing⟩
        · rintro ⟨u, h, hend⟩
          cases hend
          exact h
      · exact reaches_append_iff
    rw [hcons]
    constructor
    · rintro ⟨u, hone, hmore⟩
      obtain ⟨d, hd, hfirst⟩ := reaches_one_iff.1 hone
      obtain ⟨text, htext, hskips⟩ := ih.1 hmore
      exact ⟨d :: text, .cons hd htext, hfirst.append hskips⟩
    · rintro ⟨_, htexts, hskips⟩
      obtain ⟨d, text, hd, htext, rfl⟩ := List.forall₂_cons_left_iff.1 htexts
      rw [← List.singleton_append, Spot.skips_append_iff] at hskips
      obtain ⟨u, hfirst, hmore⟩ := hskips
      exact ⟨u, reaches_one_iff.2 ⟨d, hd, hfirst⟩, ih.2 ⟨text, htext, hmore⟩⟩

/-- A literal text matches itself. -/
theorem reaches_lit_iff {w : String} : (lit w).Reaches s t ↔ s.Skips w.toList t := by
  have hsame : ∀ {w text : List Char},
      List.Forall₂ (fun c d => (d == c) = true) w text ↔ w = text := by
    intro w text
    simp only [beq_iff_eq, eq_comm (b := (_ : Char)), List.forall₂_eq_eq_eq]
  refine (reaches_chain_one_iff fun c d => d == c).trans ?_
  simp only [hsame, exists_eq_left']

/-- The texts have the same letters when case is ignored. -/
def SameLetters : List Char → List Char → Prop :=
  List.Forall₂ fun c d => sameLetter c d = true

/-- A text in any letter case matches what has the same letters. -/
theorem reaches_anyCase_iff {w : String} :
    (anyCase w).Reaches s t ↔ ∃ text, SameLetters w.toList text ∧ s.Skips text t :=
  reaches_chain_one_iff sameLetter

/-- A choice matches where one of its patterns does. -/
theorem reaches_choice_iff {ps : List Pattern} :
    (choice ps).Reaches s t ↔ ∃ p ∈ ps, p.Reaches s t := by
  induction ps with
  | nil =>
    rw [choice, reaches_one_iff]
    simp
  | cons p rest ih =>
    rcases rest with _ | ⟨q, rest⟩
    · simp [choice]
    · have hcons : (∃ r ∈ p :: q :: rest, r.Reaches s t) ↔
          p.Reaches s t ∨ ∃ r ∈ q :: rest, r.Reaches s t := by
        simp only [List.mem_cons (b := p), or_and_right, exists_or, exists_eq_left]
      rw [hcons, ← ih]
      exact reaches_alt_iff

/-- One of several texts matches. -/
theorem reaches_words_iff {ws : List String} :
    (words ws).Reaches s t ↔ ∃ w ∈ ws, s.Skips w.toList t := by
  rw [words, reaches_choice_iff]
  constructor
  · rintro ⟨p, hp, h⟩
    obtain ⟨w, hw, rfl⟩ := List.mem_map.1 hp
    exact ⟨w, hw, reaches_lit_iff.1 h⟩
  · rintro ⟨w, hw, h⟩
    exact ⟨lit w, List.mem_map_of_mem hw, reaches_lit_iff.2 h⟩

/-- One of several texts in any letter case matches. -/
theorem reaches_anyCaseWords_iff {ws : List String} : (anyCaseWords ws).Reaches s t ↔
    ∃ w ∈ ws, ∃ text, SameLetters w.toList text ∧ s.Skips text t := by
  rw [anyCaseWords, reaches_choice_iff]
  constructor
  · rintro ⟨p, hp, h⟩
    obtain ⟨w, hw, rfl⟩ := List.mem_map.1 hp
    exact ⟨w, hw, reaches_anyCase_iff.1 h⟩
  · rintro ⟨w, hw, h⟩
    exact ⟨anyCase w, List.mem_map_of_mem hw, reaches_anyCase_iff.2 h⟩

/-- White space matches, however much. -/
theorem reaches_gap_iff : gap.Reaches s t ↔
    ∃ space, (∀ c ∈ space, Text.isBlank c = true) ∧ s.Skips space t :=
  reaches_many_iff

end Build

/-- One of several texts in any letter case occurs exactly if the text has a part with the letters of
one. -/
theorem occursIn_anyCaseWords_iff {ws : List String} {text : List Char} :
    (anyCaseWords ws).occursIn text = true ↔
      ∃ w ∈ ws, ∃ part, SameLetters w.toList part ∧ part <:+: text := by
  rw [occursIn_iff]
  constructor
  · rintro ⟨front, rest, t, rfl, h⟩
    obtain ⟨w, hw, part, hpart, hskips⟩ := reaches_anyCaseWords_iff.1 h
    have hrest : rest = part ++ t.rest := hskips.rest
    exact ⟨w, hw, part, hpart, front, t.rest, by rw [hrest, List.append_assoc]⟩
  · rintro ⟨w, hw, part, hpart, front, rest, rfl⟩
    have hs : (⟨front.getLast?, part ++ rest, []⟩ : Spot).rest = part ++ rest := rfl
    obtain ⟨t, hskips, -⟩ := Spot.exists_skips hs
    exact ⟨front, part ++ rest, t, List.append_assoc .., reaches_anyCaseWords_iff.2
      ⟨w, hw, part, hpart, hskips⟩⟩

end SourceAudit.Pattern
