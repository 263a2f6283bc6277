import SourceAudit.Proofs.Pattern.Matching

/-!
# What a pattern reads

`Reads` says which texts a pattern takes and what its groups then keep. What stands between two spots
of a match is read by the pattern (`Reaches.spans`), so what is found in a text is read too
(`reads_of_find?`), and what is kept under the number of a group is read by a group of that number
(`Reads.exists_body`).

The places where a pattern may not match, edges of words and ends of texts, play no part in it: `Reads`
bounds what is found from above.
-/

namespace SourceAudit.Pattern

/-- The pattern takes a text, and its groups keep these texts, latest first. -/
inductive Reads : Pattern → List Char → List (Nat × List Char) → Prop
  | nothing : Reads nothing [] []
  | one {accepts : Char → Bool} {c : Char} : accepts c = true → Reads (one accepts) [c] []
  | many {accepts : Char → Bool} {text : List Char} :
    (∀ c ∈ text, accepts c = true) → Reads (many accepts) text []
  | start : Reads start [] []
  | finish : Reads finish [] []
  | wordEdge : Reads wordEdge [] []
  | seq {p q : Pattern} {text text' : List Char} {groups groups' : List (Nat × List Char)} :
    Reads p text groups → Reads q text' groups' → Reads (seq p q) (text ++ text') (groups' ++ groups)
  | left {p q : Pattern} {text : List Char} {groups : List (Nat × List Char)} :
    Reads p text groups → Reads (alt p q) text groups
  | right {p q : Pattern} {text : List Char} {groups : List (Nat × List Char)} :
    Reads q text groups → Reads (alt p q) text groups
  | rest {p : Pattern} : Reads (repeated p) [] []
  | round {p : Pattern} {text text' : List Char} {groups groups' : List (Nat × List Char)} :
    Reads p text groups → Reads (repeated p) text' groups' →
    Reads (repeated p) (text ++ text') (groups' ++ groups)
  | group {n : Nat} {p : Pattern} {text : List Char} {groups : List (Nat × List Char)} :
    Reads p text groups → Reads (group n p) text ((n, text) :: groups)

/-- One pattern after another reads a text of two parts. -/
theorem reads_seq_iff {p q : Pattern} {text : List Char} {groups : List (Nat × List Char)} :
    (seq p q).Reads text groups ↔ ∃ first second kept kept', text = first ++ second ∧
      groups = kept' ++ kept ∧ p.Reads first kept ∧ q.Reads second kept' := by
  constructor
  · intro h
    cases h with
    | seq hp hq => exact ⟨_, _, _, _, rfl, rfl, hp, hq⟩
  · rintro ⟨first, second, kept, kept', rfl, rfl, hp, hq⟩
    exact hp.seq hq

/-- A choice reads what one of its patterns reads. -/
theorem exists_reads_of_choice {ps : List Pattern} {text : List Char}
    {groups : List (Nat × List Char)} (h : (choice ps).Reads text groups) :
    ∃ p ∈ ps, p.Reads text groups := by
  induction ps with
  | nil =>
    cases h with
    | one hc => cases hc
  | cons p rest ih =>
    cases rest with
    | nil => exact ⟨p, List.mem_cons_self, h⟩
    | cons q rest =>
      cases h with
      | left hp => exact ⟨p, List.mem_cons_self, hp⟩
      | right hq =>
        obtain ⟨p', hp', hreads⟩ := ih hq
        exact ⟨p', List.mem_cons_of_mem p hp', hreads⟩

/-- The pattern reads what stands between two spots. -/
def Spans (p : Pattern) (s t : Spot) : Prop :=
  ∃ text groups, p.Reads text groups ∧ s.rest = text ++ t.rest ∧ t.groups = groups ++ s.groups

section Attempt

variable {β : Type} {p q : Pattern} {s t u : Spot} {b : β}

/-- Where a pattern ends, another may begin. -/
theorem Spans.seq (hp : p.Spans s t) (hq : q.Spans t u) : (seq p q).Spans s u := by
  obtain ⟨text, groups, hreads, hrest, hgroups⟩ := hp
  obtain ⟨text', groups', hreads', hrest', hgroups'⟩ := hq
  refine ⟨text ++ text', groups' ++ groups, hreads.seq hreads', ?_, ?_⟩
  · rw [hrest, hrest', List.append_assoc]
  · rw [hgroups', hgroups, List.append_assoc]

/-- After a round, more rounds may follow. -/
theorem Spans.round (hp : p.Spans s t) (hq : (repeated p).Spans t u) : (repeated p).Spans s u := by
  obtain ⟨text, groups, hreads, hrest, hgroups⟩ := hp
  obtain ⟨text', groups', hreads', hrest', hgroups'⟩ := hq
  refine ⟨text ++ text', groups' ++ groups, hreads.round hreads', ?_, ?_⟩
  · rw [hrest, hrest', List.append_assoc]
  · rw [hgroups', hgroups, List.append_assoc]

/-- A pattern that reads nothing stays where it is. -/
theorem Spans.refl (h : p.Reads [] []) (s : Spot) : p.Spans s s :=
  ⟨[], [], h, rfl, rfl⟩

/-- The text between two spots is the one that was read. -/
theorem upTo_of_rest {text : List Char} (h : s.rest = text ++ t.rest) : s.upTo t = text := by
  have hlength : s.rest.length - t.rest.length = text.length := by
    rw [h, List.length_append]
    omega
  rw [Spot.upTo, hlength, h, List.take_left]

/-- Where a pattern matches it reads what it passes. -/
theorem Reaches.spans (h : p.Reaches s t) : p.Spans s t := by
  induction h with
  | nothing => exact .refl .nothing _
  | @one accepts before c rest groups hc => exact ⟨[c], [], .one hc, rfl, rfl⟩
  | stop => exact .refl (.many (by simp)) _
  | @more accepts before c rest groups t hc _ ih =>
    obtain ⟨text, kept, hreads, hrest, hkept⟩ := ih
    cases hreads with
    | many hall =>
      exact ⟨c :: text, [], .many (List.forall_mem_cons.2 ⟨hc, hall⟩), congrArg (c :: ·) hrest, hkept⟩
  | start => exact .refl .start _
  | finish => exact .refl .finish _
  | wordEdge => exact .refl .wordEdge _
  | seq _ _ ihp ihq => exact ihp.seq ihq
  | left _ ih =>
    obtain ⟨text, groups, hreads, hspot⟩ := ih
    exact ⟨text, groups, hreads.left, hspot⟩
  | right _ ih =>
    obtain ⟨text, groups, hreads, hspot⟩ := ih
    exact ⟨text, groups, hreads.right, hspot⟩
  | rest => exact .refl .rest _
  | round _ _ _ ihp ihq => exact ihp.round ihq
  | @group n p s t _ ih =>
    obtain ⟨text, groups, hreads, hrest, hgroups⟩ := ih
    -- What the group keeps is the text between the spots, and that is what its body has read.
    rw [upTo_of_rest hrest, hgroups]
    exact ⟨text, (n, text) :: groups, hreads.group, hrest, rfl⟩

/-- Whatever the search comes to, the pattern reads what it has passed, and the continuation accepts
the spot behind it. -/
theorem exists_spans_of_attempt {k : Spot → Option β} (h : p.attempt s k = some b) :
    ∃ t, p.Spans s t ∧ k t = some b := by
  obtain ⟨t, hreaches, ht⟩ := exists_reaches_of_attempt h
  exact ⟨t, hreaches.spans, ht⟩

end Attempt

section Found

variable {p : Pattern} {f : Found} {text : List Char}

/-- The pattern reads what is found at one place. -/
theorem reads_of_matchAt {before : Option Char} (h : p.matchAt before text = some f) :
    p.Reads f.text f.groups := by
  obtain ⟨t, ⟨text', groups, hreads, hrest, hgroups⟩, ht⟩ := exists_spans_of_attempt h
  obtain rfl := Option.some.inj ht
  rw [List.append_nil] at hgroups
  dsimp only
  rw [upTo_of_rest hrest, hgroups]
  exact hreads

/-- A pattern that asks for the end of the text behind it has read the whole text. -/
theorem reads_all_of_matchAt {before : Option Char}
    (h : (p ++ finish).matchAt before text = some f) : ∃ groups, p.Reads text groups := by
  obtain ⟨t, ⟨text', groups, hreads, hrest, -⟩, ht⟩ := exists_spans_of_attempt (p := p) h
  rw [attempt] at ht
  split at ht
  · rename_i hempty
    rw [List.isEmpty_iff.1 hempty, List.append_nil] at hrest
    have htext : text = text' := hrest
    exact ⟨groups, htext ▸ hreads⟩
  · cases ht

/-- The pattern reads what is found from a place on. -/
theorem reads_of_findFrom {before : Option Char} (h : p.findFrom before text = some f) :
    p.Reads f.text f.groups := by
  induction text generalizing before with
  | nil => exact reads_of_matchAt h
  | cons c rest ih =>
    rw [findFrom] at h
    split at h
    · rename_i f' hmatch
      obtain rfl := Option.some.inj h
      exact reads_of_matchAt hmatch
    · exact ih h

/-- The pattern reads what is found in a text. -/
theorem reads_of_find? (h : p.find? text = some f) : p.Reads f.text f.groups :=
  reads_of_findFrom h

/-- The pattern reads all that is found in a text. -/
theorem reads_of_mem_findAll (h : f ∈ p.findAll text) : p.Reads f.text f.groups := by
  -- The search goes on behind each find, so the claim is made for every place in the text.
  have hfrom : ∀ (n : Nat) (before : Option Char) (text : List Char),
      f ∈ p.findAllFrom n before text → p.Reads f.text f.groups := by
    intro n
    induction n with
    | zero =>
      intro before text h
      cases h
    | succ n ih =>
      intro before text h
      rw [findAllFrom] at h
      split at h
      · cases h
      · rename_i found hfound
        rcases List.mem_cons.1 h with rfl | h
        · exact reads_of_findFrom hfound
        · split at h
          · exact ih _ _ h
          · cases h
  exact hfrom _ _ _ h

end Found

/-- The bodies of the groups with a number. -/
def bodies (n : Nat) : Pattern → List Pattern
  | nothing | one _ | many _ | start | finish | wordEdge => []
  | seq p q => p.bodies n ++ q.bodies n
  | alt p q => p.bodies n ++ q.bodies n
  | repeated p => p.bodies n
  | group m p => if m = n then p :: p.bodies n else p.bodies n

/-- What is kept under a number was read by the body of a group with the number. -/
theorem Reads.exists_body {p : Pattern} {text kept : List Char} {groups : List (Nat × List Char)}
    {n : Nat} (h : p.Reads text groups) (hkept : (n, kept) ∈ groups) :
    ∃ body ∈ p.bodies n, ∃ inner, body.Reads kept inner := by
  induction h with
  | nothing | one | many | start | finish | wordEdge | rest => cases hkept
  -- The groups of the second pattern stand before those of the first.
  | seq _ _ ihp ihq =>
    rcases List.mem_append.1 hkept with hkept | hkept
    · obtain ⟨body, hbody, hreads⟩ := ihq hkept
      exact ⟨body, List.mem_append_right _ hbody, hreads⟩
    · obtain ⟨body, hbody, hreads⟩ := ihp hkept
      exact ⟨body, List.mem_append_left _ hbody, hreads⟩
  | left _ ih =>
    obtain ⟨body, hbody, hreads⟩ := ih hkept
    exact ⟨body, List.mem_append_left _ hbody, hreads⟩
  | right _ ih =>
    obtain ⟨body, hbody, hreads⟩ := ih hkept
    exact ⟨body, List.mem_append_right _ hbody, hreads⟩
  | round _ _ ihp ihq =>
    rcases List.mem_append.1 hkept with hkept | hkept
    · exact ihq hkept
    · exact ihp hkept
  | @group m p text groups hp ih =>
    rw [bodies]
    rcases List.mem_cons.1 hkept with heq | hkept
    · obtain ⟨rfl, rfl⟩ := Prod.mk.inj heq
      exact ⟨p, by simp, groups, hp⟩
    · obtain ⟨body, hbody, hreads⟩ := ih hkept
      refine ⟨body, ?_, hreads⟩
      split
      · exact List.mem_cons_of_mem _ hbody
      · exact hbody

/-- The text of a group is empty, or the body of a group with its number reads it. -/
theorem Reads.group_cases {p : Pattern} {f : Found} (h : p.Reads f.text f.groups) (n : Nat) :
    f.group n = [] ∨ ∃ body ∈ p.bodies n, ∃ inner, body.Reads (f.group n) inner := by
  rcases hfind : f.groups.find? (fun g => g.1 == n) with _ | ⟨m, kept⟩
  · left
    rw [Found.group, Found.group?, hfind]
    rfl
  · right
    have hm : m = n := by simpa using List.find?_some hfind
    subst hm
    have hgroup : f.group m = kept := by
      rw [Found.group, Found.group?, hfind]
      rfl
    rw [hgroup]
    exact h.exists_body (List.mem_of_find?_eq_some hfind)

end SourceAudit.Pattern
