import Mathlib.Data.List.ProdSigma
import SourceAudit.Proofs.Audit.Concurrency
import SourceAudit.Proofs.Walk.Bound

/-!
# The order of lookups

A manifest is looked up under one name after the other, and under each name on one branch after the
other. The search goes on past lookups without content, whether the file is absent or the lookup
fails, and stops at the first one with content. What a search without content comes to depends on the
last failure alone, so that a manifest counts as absent only where no lookup has failed
(`Manifest.locate_lookups`).

`Search` is such a search, place by place, with the last failure so far. The search on the branches
for one name is one of its own, without failures at its start; it is a part of the search under all
names on all branches, which takes its outcome over (`Search.append`).
-/

namespace SourceAudit

open Dialogue

/-- A search through places in their order, with the lookups that it makes and its outcome: the first
content with its place, or else the last failure, or nothing. -/
inductive Search {α β ε : Type} (answer : α → Except ε (Option β)) :
    Option ε → List α → List α → Except ε (Option (α × β)) → Prop
  | nothing : Search answer none [] [] (.ok none)
  | failure (e : ε) : Search answer (some e) [] [] (.error e)
  | found {last : Option ε} {place : α} {later : List α} {content : β} :
    answer place = .ok (some content) →
    Search answer last (place :: later) [place] (.ok (some (place, content)))
  | absent {last : Option ε} {place : α} {later lookups : List α}
      {outcome : Except ε (Option (α × β))} :
    answer place = .ok none → Search answer last later lookups outcome →
    Search answer last (place :: later) (place :: lookups) outcome
  | failed {last : Option ε} {place : α} {later lookups : List α}
      {outcome : Except ε (Option (α × β))} {e : ε} :
    answer place = .error e → Search answer (some e) later lookups outcome →
    Search answer last (place :: later) (place :: lookups) outcome

namespace Search

variable {α β ε : Type} {answer : α → Except ε (Option β)} {last : Option ε}
  {places before after lookups : List α} {place : α} {outcome : Except ε (Option (α × β))}

/-- There is no content at any of the places. -/
def Blank (answer : α → Except ε (Option β)) (places : List α) : Prop :=
  ∀ place ∈ places, ∀ content, answer place ≠ .ok (some content)

/-- A search stops at the first content. -/
theorem eq_of_content (h : Search answer last (before ++ place :: after) lookups outcome)
    (hbefore : Blank answer before) {content : β} (hplace : answer place = .ok (some content)) :
    lookups = before ++ [place] ∧ outcome = .ok (some (place, content)) := by
  induction before generalizing last lookups with
  | nil =>
    cases h with
    | found hanswer =>
      rw [hplace] at hanswer
      cases hanswer
      exact ⟨rfl, rfl⟩
    | absent hanswer => simp [hplace] at hanswer
    | failed hanswer => simp [hplace] at hanswer
  | cons first rest ih =>
    obtain ⟨hfirst, hrest⟩ := List.forall_mem_cons.1 hbefore
    cases h with
    | found hanswer => exact absurd hanswer (hfirst _)
    | absent _ hlater =>
      obtain ⟨rfl, rfl⟩ := ih hlater hrest
      exact ⟨rfl, rfl⟩
    | failed _ hlater =>
      obtain ⟨rfl, rfl⟩ := ih hlater hrest
      exact ⟨rfl, rfl⟩

/-- A search without content goes through all places. -/
theorem lookups_eq (h : Search answer last places lookups outcome) (hblank : Blank answer places) :
    lookups = places := by
  induction h with
  | nothing | failure => rfl
  | found hanswer => exact absurd hanswer (hblank _ List.mem_cons_self _)
  | absent _ _ ih => rw [ih (List.forall_mem_cons.1 hblank).2]
  | failed _ _ ih => rw [ih (List.forall_mem_cons.1 hblank).2]

/-- A search where all is absent comes to the failure that it has started with, or to nothing. -/
theorem outcome_of_absent (h : Search answer last places lookups outcome)
    (habsent : ∀ place ∈ places, answer place = .ok none) : outcome = last.elim (.ok none) .error := by
  induction h with
  | nothing | failure => rfl
  | found hanswer => simp [habsent _ List.mem_cons_self] at hanswer
  | absent _ _ ih => exact ih (List.forall_mem_cons.1 habsent).2
  | failed hanswer => simp [habsent _ List.mem_cons_self] at hanswer

/-- A search without content comes to the last failure. -/
theorem outcome_of_failure (h : Search answer last (before ++ place :: after) lookups outcome)
    (hbefore : Blank answer before) {e : ε} (hplace : answer place = .error e)
    (hafter : ∀ later ∈ after, answer later = .ok none) : outcome = .error e := by
  induction before generalizing last lookups with
  | nil =>
    cases h with
    | found hanswer => simp [hplace] at hanswer
    | absent hanswer => simp [hplace] at hanswer
    | failed hanswer hlater =>
      rw [hplace] at hanswer
      cases hanswer
      exact hlater.outcome_of_absent hafter
  | cons first rest ih =>
    obtain ⟨hfirst, hrest⟩ := List.forall_mem_cons.1 hbefore
    cases h with
    | found hanswer => exact absurd hanswer (hfirst _)
    | absent _ hlater => exact ih hlater hrest
    | failed _ hlater => exact ih hlater hrest

/-- A search comes to nothing exactly if it starts without a failure and all is absent. -/
theorem outcome_eq_nothing_iff (h : Search answer last places lookups outcome) :
    outcome = .ok none ↔ last = none ∧ ∀ place ∈ places, answer place = .ok none := by
  induction h with
  | nothing | failure => simp
  | found hanswer => simp [hanswer]
  | absent hanswer _ ih => simp [ih, hanswer]
  | failed hanswer _ ih => simp [ih, hanswer]

/-- The first places of a search may be searched on their own, without the failure so far. The search
ends with what is found there, or else it goes on at the other places with the last failure. -/
theorem append {γ : Type} {answer' : γ → Except ε (Option β)} {first : Option ε} {part found : List γ}
    {outcome' : Except ε (Option (γ × β))} {at' : γ → α} {more : List α}
    (h : Search answer' first part found outcome') (hat : ∀ c, answer (at' c) = answer' c) :
    (∀ c content, outcome' = .ok (some (c, content)) →
      Search answer (first.or last) (part.map at' ++ more) (found.map at')
        (.ok (some (at' c, content)))) ∧
    ∀ {next lookups outcome},
      (outcome' = .ok none ∧ next = last ∨ ∃ e, outcome' = .error e ∧ next = some e) →
      Search answer next more lookups outcome →
        Search answer (first.or last) (part.map at' ++ more) (found.map at' ++ lookups) outcome := by
  induction h with
  | nothing =>
    refine ⟨fun _ _ h => (nomatch h), ?_⟩
    rintro next lookups outcome (⟨-, rfl⟩ | ⟨e, ⟨⟩, -⟩) hmore
    exact hmore
  | failure e =>
    refine ⟨fun _ _ h => (nomatch h), ?_⟩
    rintro next lookups outcome (⟨⟨⟩, -⟩ | ⟨e', ⟨⟩, rfl⟩) hmore
    exact hmore
  | found hanswer =>
    refine ⟨?_, ?_⟩
    · rintro c content ⟨⟩
      exact .found ((hat _).trans hanswer)
    · rintro next lookups outcome (⟨⟨⟩, -⟩ | ⟨e, ⟨⟩, -⟩)
  | absent hanswer _ ih =>
    exact ⟨fun c content h => .absent ((hat _).trans hanswer) (ih.1 c content h),
      fun h hmore => .absent ((hat _).trans hanswer) (ih.2 h hmore)⟩
  | failed hanswer _ ih =>
    exact ⟨fun c content h => .failed ((hat _).trans hanswer) (ih.1 c content h),
      fun h hmore => .failed ((hat _).trans hanswer) (ih.2 h hmore)⟩

end Search

section Lookups

variable {owner repo : String} {content : Content}

/-- A file is fetched by a search on the branches. -/
theorem Provider.search_fetchFrom (content : Content) (owner repo path : String) (last : Option ProviderError)
    (branches : List String) :
    ∃ lookups outcome, Search (content owner repo path) last branches lookups outcome ∧
      (provider.fetchFrom owner repo path last branches).reply content.answers =
        outcome.map (Option.map Prod.snd) ∧
      (provider.fetchFrom owner repo path last branches).asked content.answers =
        lookups.map (Call.fetch owner repo path) := by
  induction branches generalizing last with
  | nil =>
    rcases last with _ | e
    · exact ⟨[], _, .nothing, rfl, rfl⟩
    · exact ⟨[], _, .failure e, rfl, rfl⟩
  | cons branch rest ih =>
    have hreply : (provider.fetch owner repo path branch).reply content.answers =
        content owner repo path branch := rfl
    have hasked : (provider.fetch owner repo path branch).asked content.answers =
        [Call.fetch owner repo path branch] := rfl
    rw [Provider.fetchFrom, reply_bind, asked_bind, hreply, hasked]
    rcases hanswer : content owner repo path branch with e | _ | text
    · obtain ⟨lookups, outcome, hsearch, hfound, hcalls⟩ := ih (some e)
      exact ⟨branch :: lookups, outcome, .failed hanswer hsearch, hfound, congrArg _ hcalls⟩
    · obtain ⟨lookups, outcome, hsearch, hfound, hcalls⟩ := ih last
      exact ⟨branch :: lookups, outcome, .absent hanswer hsearch, hfound, congrArg _ hcalls⟩
    · exact ⟨[branch], _, .found hanswer, rfl, rfl⟩

namespace Manifest

/-- A name of a manifest, and a branch to look it up on. -/
abbrev Place := String × String

/-- What a lookup is answered. -/
def answerAt (content : Content) (owner repo : String) (place : Place) :
    Except ProviderError (Option String) :=
  content owner repo place.1 place.2

/-- The call for a lookup. -/
def callAt (owner repo : String) (place : Place) : Call :=
  .fetch owner repo place.1 place.2

/-- What a search for a manifest under these names comes to. -/
def ofOutcome (names : List String) :
    Except ProviderError (Option (Place × String)) → Except AuditError Manifest
  | .ok (some (place, text)) => .ok ⟨place.1, text⟩
  | .ok none => .error (.manifestNotFound names)
  | .error e => .error (.provider e)

/-- A search comes to a manifest that is not found only where it has come to nothing. -/
theorem ofOutcome_eq_notFound_iff {names tried : List String}
    {outcome : Except ProviderError (Option (Place × String))} :
    ofOutcome names outcome = .error (.manifestNotFound tried) ↔
      tried = names ∧ outcome = .ok none := by
  rcases outcome with e | _ | ⟨place, text⟩
  · simp [ofOutcome]
  · simp [ofOutcome, eq_comm]
  · simp [ofOutcome]

/-- A manifest is located by a search under the names on the branches. -/
theorem search_locateFrom (content : Content) (owner repo : String) (branches tried : List String)
    (last : Option ProviderError) (names : List String) :
    ∃ lookups outcome,
      Search (answerAt content owner repo) last (names ×ˢ branches) lookups outcome ∧
      (locateFrom provider owner repo branches tried last names).reply content.answers =
        ofOutcome tried outcome ∧
      (locateFrom provider owner repo branches tried last names).asked content.answers =
        lookups.map (callAt owner repo) := by
  induction names generalizing last with
  | nil =>
    rcases last with _ | e
    · exact ⟨[], _, .nothing, rfl, rfl⟩
    · exact ⟨[], _, .failure e, rfl, rfl⟩
  | cons name rest ih =>
    obtain ⟨found, inner, hinner, hreply, hasked⟩ :=
      Provider.search_fetchFrom content owner repo name none branches
    have hcalls : found.map (Call.fetch owner repo name) =
        (found.map (Prod.mk name)).map (callAt owner repo) := by
      rw [List.map_map]
      rfl
    rw [locateFrom, reply_bind, asked_bind, Provider.fetchAny, hreply, hasked, hcalls,
      List.product_cons]
    -- The search on the branches is the first part of the search that is left.
    have hat : ∀ branch, answerAt content owner repo (name, branch) =
        content owner repo name branch := fun branch => rfl
    rcases inner with e | _ | ⟨branch, text⟩
    · obtain ⟨lookups, outcome, hsearch, hfound, hlater⟩ := ih (some e)
      refine ⟨found.map (Prod.mk name) ++ lookups, outcome, ?_, hfound, ?_⟩
      · exact (hinner.append hat).2 (.inr ⟨e, rfl, rfl⟩) hsearch
      · rw [List.map_append, ← hlater]
        rfl
    · obtain ⟨lookups, outcome, hsearch, hfound, hlater⟩ := ih last
      refine ⟨found.map (Prod.mk name) ++ lookups, outcome, ?_, hfound, ?_⟩
      · exact (hinner.append hat).2 (.inl ⟨rfl, rfl⟩) hsearch
      · rw [List.map_append, ← hlater]
        rfl
    · refine ⟨found.map (Prod.mk name), .ok (some ((name, branch), text)), ?_, rfl, ?_⟩
      · exact (hinner.append hat).1 branch text rfl
      · exact List.append_nil _

/-- What a search for a manifest has looked up, and what it comes to. -/
structure Located (answer : Place → Except ProviderError (Option String)) (names : List String)
    (places lookups : List Place) (result : Except AuditError Manifest) : Prop where
  /-- The search stops at the first content, whether lookups before it have failed or not. -/
  found : ∀ before place after text, places = before ++ place :: after →
    (∀ passed ∈ before, ∀ other, answer passed ≠ .ok (some other)) →
    answer place = .ok (some text) →
    lookups = before ++ [place] ∧ result = .ok ⟨place.1, text⟩
  /-- Without content all places are looked up. -/
  through : (∀ place ∈ places, ∀ text, answer place ≠ .ok (some text)) → lookups = places
  /-- Without content the last failure stands. -/
  failed : ∀ before place after e, places = before ++ place :: after →
    (∀ passed ∈ before, ∀ other, answer passed ≠ .ok (some other)) →
    answer place = .error e → (∀ later ∈ after, answer later = .ok none) →
    result = .error (.provider e)
  /-- The manifest counts as absent exactly if each lookup has said so. -/
  absent : ∀ tried, result = .error (.manifestNotFound tried) ↔
    tried = names ∧ ∀ place ∈ places, answer place = .ok none

/-- In surroundings where what is fetched depends on what is asked alone, a manifest is looked up
under its names, in their order, and under each name on the branches, in their order. -/
theorem locate_lookups {S W : Type} {p : Provider (StateT S (StateM W))}
    (hcontent : p.Supplies content) (owner repo : String) (names branches : List String) (s : S)
    (w : W) :
    ∃ lookups record result s' w',
      ((Manifest.locate p owner repo names branches).run s).run w = ((result, s'), w') ∧
      (((Manifest.locate p.recorded owner repo names branches).run []).run s).run w =
        (((result, record), s'), w') ∧
      record.map (·.call) = lookups.map (callAt owner repo) ∧
      Located (answerAt content owner repo) names (names ×ˢ branches) lookups result := by
  -- A search does not call the store, so any will do.
  obtain ⟨result, record, s', w', hrecorded, hrun, hends, hcourse⟩ :=
    exists_course (Manifest.locate provider owner repo names branches) p .refusing s w
  rw [conduct_locate] at hrecorded hrun
  -- The answers to the lookups are foreseen, and with them their outcome.
  have hasks : (Manifest.locate provider owner repo names branches).Asks (·.isFetch = true) :=
    Audit.asks_locate fun _ _ => rfl
  have hanswers := hcourse.foreseen hcontent
  obtain ⟨lookups, outcome, hsearch, hreply, hasked⟩ :=
    search_locateFrom content owner repo branches names none names
  have hresult : result = ofOutcome names outcome :=
    (eq_reply_of_ends hasks hanswers hends).trans hreply
  have hcalls : record.map (·.call) = lookups.map (callAt owner repo) :=
    (map_call_of_ends hasks hanswers hends).trans hasked
  refine ⟨lookups, record, result, s', w', hrun, hrecorded, hcalls, ?_, ?_, ?_, ?_⟩
  · intro before place after text hplaces hbefore hplace
    rw [hplaces] at hsearch
    obtain ⟨rfl, rfl⟩ := hsearch.eq_of_content hbefore hplace
    exact ⟨rfl, hresult⟩
  · exact hsearch.lookups_eq
  · intro before place after e hplaces hbefore hplace hafter
    rw [hplaces] at hsearch
    rw [hresult, hsearch.outcome_of_failure hbefore hplace hafter]
    rfl
  · intro tried
    rw [hresult, ofOutcome_eq_notFound_iff, hsearch.outcome_eq_nothing_iff]
    simp only [true_and]

section Recovery

/-- A repository whose manifest has its second name, on a provider that fails at first. -/
def recoveryContent : Content
  | _, _, "requirements.txt", "main" => .error (.rateLimited none)
  | _, _, "Requirements.txt", "main" => .ok (some "flask\n")
  | _, _, _, _ => .ok none

/-- A provider with this content. -/
def recoveryProvider : Provider (StateT Unit (StateM Unit)) where
  fetch owner repo path branch := pure (recoveryContent owner repo path branch)
  list _ _ _ := pure (.ok [])

/-- The manifest is found after a failure and an absence, and its last name is not asked for on the
other branch. -/
theorem locate_lookups_recovery :
    recoveryProvider.Supplies recoveryContent ∧
    ∃ record s' w',
      ((Manifest.locate recoveryProvider "acme" "tool" ["requirements.txt", "Requirements.txt"]
        ["main", "master"]).run ()).run () = ((.ok ⟨"Requirements.txt", "flask\n"⟩, s'), w') ∧
      (((Manifest.locate recoveryProvider.recorded "acme" "tool"
        ["requirements.txt", "Requirements.txt"] ["main", "master"]).run []).run ()).run () =
          (((.ok ⟨"Requirements.txt", "flask\n"⟩, record), s'), w') ∧
      record.map (·.call) = [.fetch "acme" "tool" "requirements.txt" "main",
        .fetch "acme" "tool" "requirements.txt" "master",
        .fetch "acme" "tool" "Requirements.txt" "main"] := by
  have hcontent : recoveryProvider.Supplies recoveryContent := fun _ _ _ _ _ _ => rfl
  obtain ⟨lookups, record, result, s', w', hrun, hrecorded, hcalls, hlocated⟩ :=
    locate_lookups hcontent "acme" "tool" ["requirements.txt", "Requirements.txt"]
      ["main", "master"] () ()
  have hbefore : ∀ passed ∈ [("requirements.txt", "main"), ("requirements.txt", "master")],
      ∀ other, answerAt recoveryContent "acme" "tool" passed ≠ .ok (some other) := by
    simp [answerAt, recoveryContent]
  obtain ⟨rfl, rfl⟩ := hlocated.found _ ("Requirements.txt", "main") [("Requirements.txt", "master")]
    "flask\n" rfl hbefore rfl
  exact ⟨hcontent, record, s', w', hrun, hrecorded, hcalls⟩

end Recovery

end Manifest

end Lookups

end SourceAudit
