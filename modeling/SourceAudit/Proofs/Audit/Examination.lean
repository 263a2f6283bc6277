import SourceAudit.Proofs.Dialogue.Audit
import SourceAudit.Proofs.Dialogue.Fetches

/-!
# The record of an examination

What an audit comes to know of a repository is its manifest, the walk through it and what came of
fetching the candidates (`Examination`); what it writes down follows from that. `ends_examine` reads
this off any record of an audit that found its manifest: the walk and the fetches are the calls on
the provider, and the calls on the store are one for every hit, in the order of the candidates and
of their lines, and the completion with the counts.
-/

namespace SourceAudit

/-- The violation that a store has recorded in an exchange. -/
def Exchange.logged? : Exchange → Option Violation
  | ⟨.store (.logViolation _), .ok v⟩ => some v
  | _ => none

/-- The violations that a store has recorded in the course of a record. -/
def acknowledged (record : List Exchange) : List Violation :=
  record.filterMap Exchange.logged?

/-- What came of a fetch: a text, or else none or an error. -/
abbrev Fetched := Except ProviderError (Option String)

/-- The text that was fetched. -/
def Fetched.text? : Fetched → Option String
  | .ok (some content) => some content
  | _ => none

/-- What an audit comes to know of a repository. -/
structure Examination where
  manifest : Manifest
  walk : Walk
  /-- What came of fetching the candidates to be scanned, in their order. -/
  outcomes : List (String × Fetched)

namespace Examination

/-- The files that were fetched, with their texts. -/
def texts (x : Examination) : List (String × String) :=
  x.outcomes.filterMap fun o => o.2.text?.map (o.1, ·)

/-- The files that could not be fetched. -/
def failures (x : Examination) : List String :=
  (x.outcomes.filter fun o => o.2.text?.isNone).map (·.1)

variable (options : AuditOptions)

/-- The scanner, which knows the modules of the repository. -/
def scanner (x : Examination) : Scanner :=
  options.scanner.withFirstParty x.walk.moduleNames

/-- The hits in a text under the policy of the repository. -/
def hits (x : Examination) (content : String) : List Hit :=
  (x.scanner options).scan x.manifest.policy content

/-- The files that were scanned without a hit. -/
def compliant (x : Examination) : List (String × String) :=
  x.texts.filter fun t => (x.hits options t.2).isEmpty

/-- The violations that the hits are for an audit, file by file. -/
def violations (audit : Audit) (x : Examination) : List NewViolation :=
  x.texts.flatMap fun t => (x.hits options t.2).map (NewViolation.ofHit audit t.1)

variable {options} {manifest : Manifest} {walk : Walk} {path : String} {fetched : Fetched}
  {rest : List (String × Fetched)}

/-- A file that was fetched comes with its text. -/
theorem texts_cons_of_some {content : String} (h : fetched.text? = some content) :
    texts ⟨manifest, walk, (path, fetched) :: rest⟩ =
      (path, content) :: texts ⟨manifest, walk, rest⟩ := by
  simp [texts, h]

/-- A file that could not be fetched has no text. -/
theorem texts_cons_of_none (h : fetched.text? = none) :
    texts ⟨manifest, walk, (path, fetched) :: rest⟩ = texts ⟨manifest, walk, rest⟩ := by
  simp [texts, h]

/-- A file that was fetched is no failure. -/
theorem failures_cons_of_some {content : String} (h : fetched.text? = some content) :
    failures ⟨manifest, walk, (path, fetched) :: rest⟩ = failures ⟨manifest, walk, rest⟩ := by
  simp [failures, h]

/-- A file that could not be fetched is a failure. -/
theorem failures_cons_of_none (h : fetched.text? = none) :
    failures ⟨manifest, walk, (path, fetched) :: rest⟩ =
      path :: failures ⟨manifest, walk, rest⟩ := by
  simp [failures, h]

end Examination

namespace Audit

open Dialogue Fetches

/-! ### What is asked of whom -/

variable {P : Call → Prop}

theorem asks_fetchFrom {owner repo path : String} (last : Option ProviderError)
    {branches : List String} (hP : ∀ branch, P (.fetch owner repo path branch)) :
    (provider.fetchFrom owner repo path last branches).Asks P := by
  induction branches generalizing last with
  | nil => cases last <;> trivial
  | cons branch rest ih =>
    refine Asks.bind (asks_call.2 (hP branch)) fun answer => ?_
    rcases answer with e | _ | content
    · exact ih _
    · exact ih _
    · trivial

/-- A file is fetched by calls for it on branches. -/
theorem asks_fetchAny {owner repo path : String} {branches : List String}
    (hP : ∀ branch, P (.fetch owner repo path branch)) :
    (provider.fetchAny owner repo path branches).Asks P :=
  asks_fetchFrom none hP

theorem asks_locateFrom {owner repo : String} {branches tried : List String}
    (last : Option ProviderError) {names : List String}
    (hP : ∀ path branch, P (.fetch owner repo path branch)) :
    (Manifest.locateFrom provider owner repo branches tried last names).Asks P := by
  induction names generalizing last with
  | nil => cases last <;> trivial
  | cons name rest ih =>
    refine Asks.bind (asks_fetchAny (hP name)) fun answer => ?_
    rcases answer with e | _ | content
    · exact ih _
    · exact ih _
    · trivial

/-- A manifest is looked for by fetching files. -/
theorem asks_locate {owner repo : String} {names branches : List String}
    (hP : ∀ path branch, P (.fetch owner repo path branch)) :
    (Manifest.locate provider owner repo names branches).Asks P :=
  asks_locateFrom none hP

theorem asks_level {owner repo : String} {o : WalkOptions} (w : Walk) {directories : List String}
    (hP : ∀ path, P (.list owner repo path)) :
    (Walk.level provider owner repo o w directories).Asks P := by
  induction directories generalizing w with
  | nil => trivial
  | cons directory rest ih =>
    refine Asks.bind (asks_call.2 (hP directory)) fun answer => ?_
    rcases answer with e | entries
    · exact ih _
    · dsimp only
      split
      · trivial
      · exact Asks.bind (ih _) fun _ => trivial

theorem asks_levels {owner repo : String} {o : WalkOptions} {depth : Nat} (w : Walk)
    {directories : List String} (hP : ∀ path, P (.list owner repo path)) :
    (Walk.levels provider owner repo o depth w directories).Asks P := by
  induction depth generalizing w directories with
  | zero => trivial
  | succ depth ih =>
    simp only [Walk.levels]
    split
    · trivial
    · exact Asks.bind (asks_level w hP) fun _ => ih _

/-- A walk is made by listing directories. -/
theorem asks_roots {owner repo : String} {o : WalkOptions} (w : Walk) {roots : List String}
    (hP : ∀ path, P (.list owner repo path)) :
    (Walk.roots provider owner repo o w roots).Asks P := by
  induction roots generalizing w with
  | nil => trivial
  | cons root rest ih =>
    simp only [Walk.roots]
    split
    · trivial
    · exact Asks.bind (asks_levels w hP) fun _ => ih _

theorem asks_logHits (audit : Audit) (path : String) (hits : List Hit) :
    (logHits gateway audit path hits).Asks (·.isStore = true) := by
  induction hits with
  | nil => trivial
  | cons h rest ih =>
    refine Asks.bind (asks_call.2 rfl) fun answer => ?_
    rcases answer with e | v
    · exact ih
    · exact Asks.bind ih fun _ => trivial

/-- A file is scanned with calls on the store only. -/
theorem asks_takeFile (audit : Audit) (scanner : Scanner) (policy : Policy) (s : Progress)
    (path : String) (fetched : Fetched) :
    (takeFile gateway audit scanner policy s path fetched).Asks (·.isStore = true) := by
  rcases fetched with e | _ | content
  · trivial
  · trivial
  · exact Asks.bind (asks_logHits ..) fun _ => trivial

/-! ### What is written down -/

/-- The record of the hits in a file: one call for every hit, and the violations that came of it. -/
theorem ends_logHits {audit : Audit} {path : String} {hits : List Hit} {record : List Exchange}
    {logged : List Violation} (h : (logHits gateway audit path hits).Ends record logged) :
    record.map (·.call) = hits.map (fun hit => .store (.logViolation (.ofHit audit path hit))) ∧
      logged = acknowledged record := by
  induction hits generalizing record logged with
  | nil =>
    obtain ⟨rfl, rfl⟩ := ends_done_iff.1 h
    exact ⟨rfl, rfl⟩
  | cons hit rest ih =>
    obtain ⟨first, answer, second, rfl, hfirst, hsecond⟩ := ends_bind_iff.1 h
    obtain rfl := ends_call_iff.1 hfirst
    rcases answer with e | v
    · obtain ⟨hcalls, rfl⟩ := ih hsecond
      exact ⟨by simp [hcalls], rfl⟩
    · obtain ⟨third, later, fourth, rfl, hthird, hfourth⟩ := ends_bind_iff.1 hsecond
      obtain ⟨rfl, rfl⟩ := ends_done_iff.1 hfourth
      obtain ⟨hcalls, rfl⟩ := ih hthird
      exact ⟨by simp [hcalls], by simp [acknowledged, Exchange.logged?]⟩

/-- The progress after files, given that before them and the violations that came of them. -/
def Progress.after (s : Progress) (options : AuditOptions) (x : Examination)
    (logged : List Violation) : Progress where
  analyzed := s.analyzed ++ x.texts.map (·.1)
  failed := s.failed ++ x.failures
  violations := s.violations ++ logged
  compliant := s.compliant + (x.compliant options).length

section After

variable {options : AuditOptions} {manifest : Manifest} {walk : Walk} {path : String}
  {fetched : Fetched} {rest : List (String × Fetched)} {s : Progress} {logged : List Violation}

/-- The progress after a file that could not be fetched and others. -/
theorem Progress.after_cons_of_none (h : fetched.text? = none) :
    s.after options ⟨manifest, walk, (path, fetched) :: rest⟩ logged =
      Progress.after { s with failed := s.failed ++ [path] } options ⟨manifest, walk, rest⟩
        logged := by
  simp only [Progress.after, Examination.compliant, Examination.texts_cons_of_none h,
    Examination.failures_cons_of_none h, List.append_assoc, List.singleton_append]
  rfl

/-- The progress after a file that was fetched and others. -/
theorem Progress.after_cons_of_some {content : String} {first : List Violation}
    (h : fetched.text? = some content) :
    s.after options ⟨manifest, walk, (path, fetched) :: rest⟩ (first ++ logged) =
      Progress.after
        { s with
          analyzed := s.analyzed ++ [path]
          violations := s.violations ++ first
          compliant :=
            if (((options.scanner.withFirstParty walk.moduleNames).scan manifest.policy
              content).isEmpty) then s.compliant + 1 else s.compliant }
        options ⟨manifest, walk, rest⟩ logged := by
  simp only [Progress.after, Examination.compliant, Examination.texts_cons_of_some h,
    Examination.failures_cons_of_some h, List.append_assoc, List.singleton_append, List.map_cons,
    List.filter_cons, Progress.mk.injEq, true_and]
  simp only [Examination.hits, Examination.scanner]
  -- It counts as compliant if the scan has come to nothing.
  by_cases hc : ((options.scanner.withFirstParty walk.moduleNames).scan manifest.policy
      content).isEmpty = true
  · simp only [hc, if_true, List.length_cons]
    omega
  · simp only [hc, Bool.false_eq_true, if_false]

end After

/-- The record of taking results in order: a call for every hit, and the progress that comes of
it. -/
theorem ends_takeAll {audit : Audit} {options : AuditOptions} {manifest : Manifest} {walk : Walk}
    {s s' : Progress} {outcomes : List (String × Fetched)} {record : List Exchange}
    (h : (takeAll (takeFile gateway audit (options.scanner.withFirstParty walk.moduleNames)
      manifest.policy) s outcomes).Ends record s') :
    record.map (·.call) = ((Examination.mk manifest walk outcomes).violations options audit).map
        (fun v => .store (.logViolation v)) ∧
      s' = s.after options ⟨manifest, walk, outcomes⟩ (acknowledged record) := by
  induction outcomes generalizing s record with
  | nil =>
    obtain ⟨rfl, rfl⟩ := ends_done_iff.1 h
    exact ⟨rfl, by simp [Progress.after, Examination.texts, Examination.failures,
      Examination.compliant, acknowledged]⟩
  | cons o rest ih =>
    obtain ⟨first, s₁, second, rfl, hfirst, hsecond⟩ := ends_bind_iff.1 h
    obtain ⟨hcalls, rfl⟩ := ih hsecond
    rcases o with ⟨path, fetched⟩
    rcases hf : fetched.text? with _ | content
    · -- A file that could not be fetched is put down as failed, without a call.
      have hnone : first = [] ∧ { s with failed := s.failed ++ [path] } = s₁ := by
        rcases fetched with e | _ | content
        · exact ends_done_iff.1 hfirst
        · exact ends_done_iff.1 hfirst
        · simp [Fetched.text?] at hf
      obtain ⟨rfl, rfl⟩ := hnone
      rw [Progress.after_cons_of_none hf, Examination.violations,
        Examination.texts_cons_of_none hf]
      exact ⟨hcalls, rfl⟩
    · -- A file with a text is scanned, and its hits are recorded before those of the rest.
      obtain rfl : fetched = .ok (some content) := by
        rcases fetched with e | _ | content <;> simp_all [Fetched.text?]
      obtain ⟨third, logged, fourth, rfl, hthird, hfourth⟩ := ends_bind_iff.1 hfirst
      obtain ⟨rfl, rfl⟩ := ends_done_iff.1 hfourth
      obtain ⟨hlog, rfl⟩ := ends_logHits hthird
      have hacknowledged : acknowledged (third ++ [] ++ second) =
          acknowledged third ++ acknowledged second := by
        simp [acknowledged]
      rw [hacknowledged, Progress.after_cons_of_some hf, Examination.violations,
        Examination.texts_cons_of_some hf]
      refine ⟨?_, rfl⟩
      simp only [List.map_append, List.flatMap_cons, hcalls, hlog, List.append_nil, List.map_map]
      rfl

end Audit

end SourceAudit
