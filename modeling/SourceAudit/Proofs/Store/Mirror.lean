import Mathlib.Data.List.Nodup
import Mathlib.Data.Set.Function
import SourceAudit.Proofs.Store.Ledger
import SourceAudit.Proofs.Store.Lifecycle

/-!
# A store reads back what it has acknowledged

A store that was empty is at all times what its ledger tells, in each of its three lists
(`Store.Mirrors`): an entry changes the store and the ledger alike, as long as no two audits are opened
with one identity. So the audits of a repository, the violations of an audit and what is known of a
repository are read back as they were acknowledged (`reads_back`).
-/

namespace SourceAudit.Store

/-- Where the members have keys of their own, to change the first one with a key is to change all that
have it. -/
theorem modifyFirst_eq_map {α β : Type} [DecidableEq β] {key : α → β} {k : β} {f : α → α}
    {l : List α} (h : (l.map key).Nodup) :
    modifyFirst (fun a => key a == k) f l = l.map fun a => if key a = k then f a else a := by
  induction l with
  | nil => rfl
  | cons a rest ih =>
    obtain ⟨hother, hrest⟩ := List.nodup_cons.1 h
    unfold modifyFirst
    by_cases ha : key a = k
    · -- The key is that of the first member, so it is that of no other one.
      have hsame : rest.map (fun b => if key b = k then f b else b) = rest := by
        refine (List.map_congr_left fun b hb => ?_).trans (List.map_id rest)
        have hne : key b ≠ k := fun hb' => hother (ha ▸ hb' ▸ List.mem_map_of_mem hb)
        exact if_neg hne
      rw [if_pos (beq_iff_eq.2 ha), List.map_cons, if_pos ha, hsame]
    · rw [if_neg (mt beq_iff_eq.1 ha), List.map_cons, if_neg ha, ih hrest]

variable {s s' : Store} {l : Ledger} {entry : Entry} {id : String}

/-! ### Audits -/

/-- The audits are what the ledger tells. -/
structure MirrorsAudits (s : Store) (l : Ledger) : Prop where
  /-- They are those that were opened and not dropped, as they were acknowledged last. -/
  audits : s.audits = (l.openings.filter fun opening => ¬ l.Dropped opening.2.id).map
    fun opening => l.current opening.2
  /-- Each keeps its identity and its repository. -/
  keyed : ∀ opening ∈ l.openings, (l.current opening.2).id = opening.2.id ∧
    (l.current opening.2).repositoryId = opening.1
  /-- Only audits that were opened are settled or dropped. -/
  opened : ∀ id, l.Dropped id ∨ l.settlements id ≠ [] → id ∈ l.auditIds

namespace MirrorsAudits

/-- The identities of the audits are those that were opened and not dropped. -/
theorem map_id_audits (h : s.MirrorsAudits l) : s.audits.map Audit.id =
    (l.openings.filter fun opening => ¬ l.Dropped opening.2.id).map (·.2.id) := by
  rw [h.audits, List.map_map]
  refine List.map_congr_left fun opening hopening => ?_
  exact (h.keyed opening (List.mem_filter.1 hopening).1).1

/-- As no two audits are opened with one identity, no two audits have one. -/
theorem nodup_audits (h : s.MirrorsAudits l) (hids : l.auditIds.Nodup) :
    (s.audits.map Audit.id).Nodup := by
  rw [h.map_id_audits]
  exact hids.sublist (List.filter_sublist.map _)

/-- An audit that is found was opened, for its repository, and was not dropped. -/
theorem exists_opening (h : s.MirrorsAudits l) {a : Audit} (hfound : s.audit? id = some a) :
    ∃ opening ∈ l.openings, opening.2.id = id ∧ opening.1 = a.repositoryId ∧ ¬ l.Dropped id := by
  have hmem := List.mem_of_find?_eq_some hfound
  rw [h.audits] at hmem
  obtain ⟨opening, hopening, rfl⟩ := List.mem_map.1 hmem
  obtain ⟨hopening, hkept⟩ := List.mem_filter.1 hopening
  obtain ⟨hid, hrepository⟩ := h.keyed opening hopening
  have hid' : opening.2.id = id := hid.symm.trans (id_of_audit? hfound)
  exact ⟨opening, hopening, hid', hrepository.symm, hid' ▸ of_decide_eq_true hkept⟩

/-- The identity of an audit that is found was given out. -/
theorem mem_auditIds (h : s.MirrorsAudits l) {a : Audit} (hfound : s.audit? id = some a) :
    id ∈ l.auditIds := by
  obtain ⟨opening, hopening, rfl, -⟩ := h.exists_opening hfound
  exact List.mem_map_of_mem hopening

/-- An entry that is not about audits leaves them and what the ledger tells of them. -/
theorem frame (h : s.MirrorsAudits l) (haudits : s'.audits = s.audits)
    (hopens : Ledger.openings [entry] = []) (hsettles : ∀ id, Ledger.settlements [entry] id = [])
    (hdrops : ∀ id, entry ≠ .dropped id) : s'.MirrorsAudits (l ++ [entry]) := by
  have hopenings : Ledger.openings (l ++ [entry]) = l.openings := by
    rw [Ledger.openings_append, hopens, List.append_nil]
  have hdropped : ∀ id, Ledger.Dropped (l ++ [entry]) id ↔ l.Dropped id := fun id =>
    Ledger.dropped_concat_iff.trans (or_iff_left (hdrops id))
  have hcurrent : ∀ a, Ledger.current (l ++ [entry]) a = l.current a := fun a =>
    Ledger.current_concat_of_nil (hsettles a.id)
  constructor
  · rw [haudits, h.audits, hopenings]
    simp only [hdropped, hcurrent]
  · intro opening hopening
    rw [hopenings] at hopening
    rw [hcurrent]
    exact h.keyed opening hopening
  · intro id hid
    rw [hdropped, Ledger.settlements_append, hsettles, List.append_nil] at hid
    rw [Ledger.auditIds_append]
    exact List.mem_append_left _ (h.opened id hid)

/-- An audit that is opened comes at the end. -/
theorem created (h : s.MirrorsAudits l) (now : Instant) (repositoryId : String)
    (hnew : (s.nextAudit now repositoryId).id ∉ l.auditIds) :
    (s.afterCreate now repositoryId).MirrorsAudits
      (l ++ [.opened repositoryId (s.nextAudit now repositoryId)]) := by
  generalize ha : s.nextAudit now repositoryId = a at hnew
  have haudits : (s.afterCreate now repositoryId).audits = s.audits ++ [a] := by
    rw [← ha]
    rfl
  have hrepository : a.repositoryId = repositoryId := by
    rw [← ha]
    rfl
  -- Nothing was said of the audit before.
  have hfresh : ¬ (l.Dropped a.id ∨ l.settlements a.id ≠ []) := mt (h.opened a.id) hnew
  rw [not_or, not_not] at hfresh
  have hopenings : Ledger.openings (l ++ [.opened repositoryId a]) =
      l.openings ++ [(repositoryId, a)] := Ledger.openings_append _
  have hdropped : ∀ id, Ledger.Dropped (l ++ [.opened repositoryId a]) id ↔ l.Dropped id :=
    fun id => Ledger.dropped_concat_iff.trans (or_iff_left nofun)
  have hcurrent : ∀ b, Ledger.current (l ++ [.opened repositoryId a]) b = l.current b :=
    fun b => Ledger.current_concat_of_nil rfl
  have hown : l.current a = a := by
    unfold Ledger.current
    rw [hfresh.2]
    rfl
  constructor
  · rw [haudits, h.audits, hopenings]
    simp [hdropped, hcurrent, hfresh.1, hown]
  · intro opening hopening
    rw [hcurrent]
    rw [hopenings] at hopening
    rcases List.mem_append.1 hopening with hopening | hopening
    · exact h.keyed opening hopening
    · obtain rfl := List.mem_singleton.1 hopening
      rw [hown]
      exact ⟨rfl, hrepository⟩
  · intro id hid
    have hsettlements : Ledger.settlements (l ++ [.opened repositoryId a]) id = l.settlements id :=
      (Ledger.settlements_append _).trans (List.append_nil _)
    rw [hdropped, hsettlements] at hid
    rw [Ledger.auditIds_append]
    exact List.mem_append_left _ (h.opened id hid)

/-- An audit that is settled stays in its place. -/
theorem settled (h : s.MirrorsAudits l) (hids : l.auditIds.Nodup) {a settled : Audit}
    (hfound : s.audit? id = some a) (hid : settled.id = a.id)
    (hrepository : settled.repositoryId = a.repositoryId) :
    (s.afterSettle id settled).MirrorsAudits (l ++ [.settled id settled]) := by
  have hopenings : Ledger.openings (l ++ [.settled id settled]) = l.openings :=
    (Ledger.openings_append _).trans (List.append_nil _)
  have hdropped : ∀ id', Ledger.Dropped (l ++ [.settled id settled]) id' ↔ l.Dropped id' :=
    fun id' => Ledger.dropped_concat_iff.trans (or_iff_left nofun)
  have hother : ∀ id', id' ≠ id → Ledger.settlements [.settled id settled] id' = [] :=
    fun id' hne => List.filterMap_cons_none (if_neg hne.symm)
  have hcurrent : ∀ b : Audit, Ledger.current (l ++ [.settled id settled]) b =
      if b.id = id then settled else l.current b := by
    intro b
    by_cases hb : b.id = id
    · rw [if_pos hb, Ledger.current_concat_settled hb]
    · rw [if_neg hb, Ledger.current_concat_of_nil (hother b.id hb)]
  constructor
  · have haudits : (s.afterSettle id settled).audits =
        s.audits.map fun b => if b.id = id then settled else b :=
      modifyFirst_eq_map (h.nodup_audits hids)
    rw [haudits, h.audits, hopenings, List.map_map]
    simp only [hdropped]
    refine List.map_congr_left fun opening hopening => ?_
    have hsame := (h.keyed opening (List.mem_filter.1 hopening).1).1
    rw [hcurrent, Function.comp_apply, hsame]
  · intro opening hopening
    rw [hopenings] at hopening
    rw [hcurrent]
    by_cases hopened : opening.2.id = id
    · -- The audit that is settled is that of this opening, as no other one has its identity.
      obtain ⟨opening', hopening', hid', hrepository', -⟩ := h.exists_opening hfound
      have heq : opening' = opening :=
        List.inj_on_of_nodup_map hids hopening' hopening (hid'.trans hopened.symm)
      rw [if_pos hopened]
      exact ⟨(hid.trans (id_of_audit? hfound)).trans hopened.symm,
        hrepository.trans (hrepository'.symm.trans (congrArg Prod.fst heq))⟩
    · rw [if_neg hopened]
      exact h.keyed opening hopening
  · intro id' hid'
    rw [Ledger.auditIds_append]
    refine List.mem_append_left _ ?_
    by_cases hsettled : id' = id
    · rw [hsettled]
      exact h.mem_auditIds hfound
    · rw [hdropped, Ledger.settlements_append, hother id' hsettled, List.append_nil] at hid'
      exact h.opened id' hid'

/-- An audit that is dropped is gone, and the others stay. -/
theorem dropped (h : s.MirrorsAudits l) {a : Audit} (hfound : s.audit? id = some a) :
    (s.afterDelete id).MirrorsAudits (l ++ [.dropped id]) := by
  have hopenings : Ledger.openings (l ++ [.dropped id]) = l.openings :=
    (Ledger.openings_append _).trans (List.append_nil _)
  have hcurrent : ∀ b, Ledger.current (l ++ [.dropped id]) b = l.current b :=
    fun b => Ledger.current_concat_of_nil rfl
  have hdropped : ∀ id', Ledger.Dropped (l ++ [.dropped id]) id' ↔ l.Dropped id' ∨ id' = id := by
    intro id'
    rw [Ledger.dropped_concat_iff, Entry.dropped.injEq, @eq_comm _ id]
  constructor
  · have haudits : (s.afterDelete id).audits = s.audits.filter (·.id != id) := rfl
    rw [haudits, h.audits, hopenings, List.filter_map, List.filter_filter]
    simp only [hcurrent]
    refine congrArg (List.map _) (List.filter_congr fun opening hopening => ?_)
    have hsame := (h.keyed opening hopening).1
    rw [Function.comp_apply, hsame]
    by_cases hid : opening.2.id = id
    · simp [hdropped, hid]
    · simp [hdropped, hid]
  · intro opening hopening
    rw [hopenings] at hopening
    rw [hcurrent]
    exact h.keyed opening hopening
  · intro id' hid'
    have hsettlements : Ledger.settlements (l ++ [.dropped id]) id' = l.settlements id' :=
      (Ledger.settlements_append _).trans (List.append_nil _)
    rw [hdropped, hsettlements, or_right_comm] at hid'
    rw [Ledger.auditIds_append]
    refine List.mem_append_left _ ?_
    rcases hid' with hid' | rfl
    · exact h.opened id' hid'
    · exact h.mem_auditIds hfound

/-- The audits of a repository are read back as the ledger tells. -/
theorem auditsOf_eq (h : s.MirrorsAudits l) (repositoryId : String) :
    s.auditsOf repositoryId = l.auditsOf repositoryId := by
  unfold auditsOf Ledger.auditsOf
  rw [List.filter_reverse, h.audits, List.filter_map, List.filter_filter]
  refine congrArg (fun openings => (List.map _ openings).reverse)
    (List.filter_congr fun opening hopening => ?_)
  rw [Function.comp_apply, (h.keyed opening hopening).2, Bool.decide_and, beq_eq_decide]

/-- Each entry changes the audits and what the ledger tells of them alike. -/
theorem enters (h : s.MirrorsAudits l) (henters : s.Enters entry s')
    (hids : (Ledger.auditIds (l ++ [entry])).Nodup) : s'.MirrorsAudits (l ++ [entry]) := by
  rw [Ledger.auditIds_append] at hids
  obtain ⟨hids', -, hnew⟩ := List.nodup_append.1 hids
  cases henters with
  | synced => exact h.frame rfl rfl (fun _ => rfl) nofun
  | logged => exact h.frame rfl rfl (fun _ => rfl) nofun
  | opened now repositoryId =>
    refine h.created now repositoryId fun hmem => ?_
    exact hnew _ hmem _ (List.mem_singleton_self _) rfl
  | settled id audit settled hfound hid hrepository => exact h.settled hids' hfound hid hrepository
  | dropped id audit hfound => exact h.dropped hfound

end MirrorsAudits

/-! ### Violations -/

/-- An entry that is not about the violations of an audit leaves them and what the ledger tells of
them. -/
theorem violationsOf_frame (hsame : s'.violationsOf id = s.violationsOf id)
    (h : s.violationsOf id = l.violationsOf id) (hlogs : Ledger.logged [entry] id = [])
    (hdrops : entry ≠ .dropped id) : s'.violationsOf id = Ledger.violationsOf (l ++ [entry]) id := by
  rw [hsame, h, Ledger.violationsOf_concat_of_nil hlogs hdrops]

/-- Each entry changes the violations and what the ledger tells of them alike. -/
theorem violationsOf_of_enters (haudits : s.MirrorsAudits l)
    (h : ∀ id, s.violationsOf id = l.violationsOf id) (henters : s.Enters entry s') (id : String) :
    s'.violationsOf id = Ledger.violationsOf (l ++ [entry]) id := by
  cases henters with
  | synced | opened | settled => exact violationsOf_frame rfl (h id) rfl nofun
  | logged now v audit hfound =>
    rw [violationsOf_afterLog]
    by_cases hid : v.auditId = id
    · -- The audit is there, so it was not dropped.
      obtain ⟨-, -, -, -, hkept⟩ := haudits.exists_opening hfound
      rw [hid] at hkept
      have hkept' : ¬ Ledger.Dropped (l ++ [.logged v.auditId (s.nextViolation now v)]) id := by
        rw [Ledger.dropped_concat_iff]
        exact not_or.2 ⟨hkept, nofun⟩
      have hone : Ledger.logged [.logged v.auditId (s.nextViolation now v)] id =
          [s.nextViolation now v] := List.filterMap_cons_some (if_pos hid)
      have hbefore : s.violationsOf id = l.logged id := (h id).trans (if_neg hkept)
      unfold Ledger.violationsOf
      rw [if_neg hkept', Ledger.logged_append, hone, if_pos hid, hbefore]
    · have hother : Ledger.logged [.logged v.auditId (s.nextViolation now v)] id = [] :=
        List.filterMap_cons_none (if_neg hid)
      rw [if_neg hid, List.append_nil]
      exact violationsOf_frame rfl (h id) hother nofun
  | dropped id' audit hfound =>
    by_cases hid : id = id'
    · have hdropped : Ledger.Dropped (l ++ [.dropped id']) id :=
        Ledger.dropped_concat_iff.2 (.inr (congrArg Entry.dropped hid.symm))
      unfold Ledger.violationsOf
      rw [if_pos hdropped, hid]
      exact violationsOf_afterDelete
    · have hother : Entry.dropped id' ≠ .dropped id := fun heq => hid (Entry.dropped.inj heq).symm
      exact violationsOf_frame (violationsOf_afterDelete_of_ne hid) (h id) rfl hother

/-! ### Repositories -/

/-- The repositories are what the ledger tells. -/
structure MirrorsRepositories (s : Store) (l : Ledger) : Prop where
  /-- Under an identity there is what was recorded under it. -/
  repositories : ∀ id, s.repository? id =
    Ledger.summary id (l.syncs.filter fun sync => repositoryId sync.owner sync.name = id)
  /-- Only names that are accepted are recorded. -/
  named : ∀ sync ∈ l.syncs, Validation.Names sync.owner sync.name

namespace MirrorsRepositories

/-- An entry that is not about repositories leaves them and what the ledger tells of them. -/
theorem frame (h : s.MirrorsRepositories l) (hrepositories : s'.repositories = s.repositories)
    (hsyncs : Ledger.syncs [entry] = []) : s'.MirrorsRepositories (l ++ [entry]) := by
  have hsyncs' : Ledger.syncs (l ++ [entry]) = l.syncs := by
    rw [Ledger.syncs_append, hsyncs, List.append_nil]
  constructor
  · intro id
    have hsame : s'.repository? id = s.repository? id := by
      unfold repository?
      rw [hrepositories]
    rw [hsame, hsyncs']
    exact h.repositories id
  · rw [hsyncs']
    exact h.named

/-- A repository that is recorded comes under its identity, and the others stay. -/
theorem synced (h : s.MirrorsRepositories l) {owner name : String}
    (hnames : Validation.Names owner name) (now : Instant) (url : String) :
    (s.afterUpsert now owner name url).MirrorsRepositories
      (l ++ [.synced ⟨owner, name, url, now⟩]) := by
  have hsyncs : Ledger.syncs (l ++ [.synced ⟨owner, name, url, now⟩]) =
      l.syncs ++ [⟨owner, name, url, now⟩] := Ledger.syncs_append _
  constructor
  · intro id
    rw [hsyncs, List.filter_append]
    by_cases hid : repositoryId owner name = id
    · have hone : [(⟨owner, name, url, now⟩ : Sync)].filter (fun sync =>
          repositoryId sync.owner sync.name = id) = [⟨owner, name, url, now⟩] :=
        List.filter_cons_of_pos (decide_eq_true hid)
      rw [hone, Ledger.summary_concat, ← h.repositories, ← hid, repository?_afterUpsert]
      unfold nextRepository
      cases s.repository? (repositoryId owner name) <;> rfl
    · have hnone : [(⟨owner, name, url, now⟩ : Sync)].filter (fun sync =>
          repositoryId sync.owner sync.name = id) = [] :=
        List.filter_cons_of_neg (by simpa using hid)
      rw [hnone, List.append_nil, repository?_afterUpsert_of_ne hid]
      exact h.repositories id
  · intro sync hsync
    rw [hsyncs] at hsync
    rcases List.mem_append.1 hsync with hsync | hsync
    · exact h.named sync hsync
    · obtain rfl := List.mem_singleton.1 hsync
      exact hnames

/-- Each entry changes the repositories and what the ledger tells of them alike. -/
theorem enters (h : s.MirrorsRepositories l) (henters : s.Enters entry s') :
    s'.MirrorsRepositories (l ++ [entry]) := by
  cases henters with
  | synced now owner name url hnames => exact h.synced hnames now url
  | opened | settled | logged | dropped => exact h.frame rfl rfl

/-- As far as SHA-256 tells the texts of their identities apart, a repository is read back by its
names. -/
theorem repository?_eq (h : s.MirrorsRepositories l) {owner name : String}
    (hsha : Set.InjOn Sha256.hex (insert (repositoryText owner name)
      {text | ∃ sync ∈ l.syncs, repositoryText sync.owner sync.name = text})) :
    s.repository? (repositoryId owner name) = l.repository? owner name := by
  rw [h.repositories]
  unfold Ledger.repository?
  refine congrArg _ (List.filter_congr fun sync hsync => decide_eq_decide.2 ?_)
  constructor
  · intro heq
    have htext : repositoryText sync.owner sync.name = repositoryText owner name :=
      hsha (.inr ⟨sync, hsync, rfl⟩) (.inl rfl) heq
    obtain ⟨howner, hname⟩ := sameNames_of_repositoryText_eq (h.named sync hsync) htext
    exact ⟨howner.symm, hname.symm⟩
  · intro hsame
    exact congrArg Sha256.hex (repositoryText_eq_of_sameNames hsame).symm

end MirrorsRepositories

/-! ### The store -/

/-- The store is what the ledger tells. -/
structure Mirrors (s : Store) (l : Ledger) : Prop where
  audits : s.MirrorsAudits l
  violations : ∀ id, s.violationsOf id = l.violationsOf id
  repositories : s.MirrorsRepositories l

/-- An empty store is what an empty ledger tells. -/
theorem mirrors_empty : Mirrors {} [] where
  audits :=
    { audits := rfl
      keyed := List.forall_mem_nil _
      opened := fun _ h => h.elim (fun hdropped => nomatch hdropped) fun hne => absurd rfl hne }
  violations _ := rfl
  repositories := ⟨fun _ => rfl, List.forall_mem_nil _⟩

/-- A call changes the store and the ledger alike. -/
theorem Mirrors.call (h : s.Mirrors l) {c : TimedCall} {answer : Except StoreError c.call.Result}
    (hrun : runOn c.op s = (answer, s'))
    (hids : (Ledger.auditIds (l ++ (c.call.entry? c.time answer).toList)).Nodup) :
    s'.Mirrors (l ++ (c.call.entry? c.time answer).toList) := by
  have henters := enters_of_runOn hrun
  cases hentry : c.call.entry? c.time answer with
  | none =>
    rw [hentry] at henters
    obtain rfl : s' = s := henters
    rw [Option.toList_none, List.append_nil]
    exact h
  | some entry =>
    rw [hentry] at henters hids
    exact ⟨h.audits.enters henters hids, violationsOf_of_enters h.audits h.violations henters,
      h.repositories.enters henters⟩

/-- A history changes the store and the ledger alike. -/
theorem Mirrors.after (h : s.Mirrors l) {history : List TimedCall}
    (hids : (Ledger.auditIds (l ++ s.ledger history)).Nodup) :
    (s.after history).Mirrors (l ++ s.ledger history) := by
  induction history generalizing s l with
  | nil =>
    rw [ledger, List.append_nil]
    exact h
  | cons c rest ih =>
    unfold ledger at hids ⊢
    rw [← List.append_assoc] at hids ⊢
    -- The ledger up to the first call has no identity twice, as the whole one has none.
    have hfirst : (Ledger.auditIds (l ++ (c.call.entry? c.time (runOn c.op s).1).toList)).Nodup := by
      rw [Ledger.auditIds_append] at hids
      exact (List.nodup_append.1 hids).1
    exact ih (h.call rfl hfirst) hids

/-- A store reads back what it has acknowledged. Whatever calls are made on a store that was empty, at
whatever times and with whatever outcomes, as long as no two audits are opened with one identity:

* the audits of a repository are those that were opened for it and not dropped, newest first, each as
  it was acknowledged last;
* the violations of an audit are those that were acknowledged, in their order, or none once the audit
  was dropped;
* what is known of a repository is nothing if none was recorded with such names up to lower case, and
  else has the names and the time of the first time, and the URL and the time of the last one, as far
  as SHA-256 tells the texts of the names apart. For names that are accepted, up to lower case means up
  to the case of ASCII letters. -/
theorem reads_back (history : List TimedCall)
    (hids : (({} : Store).ledger history).auditIds.Nodup) :
    (∀ now repositoryId,
      runOn ((StoreCall.listAudits repositoryId).op now) (({} : Store).after history) =
        (.ok ((({} : Store).ledger history).auditsOf repositoryId), ({} : Store).after history)) ∧
    (∀ now auditId,
      runOn ((StoreCall.listViolations auditId).op now) (({} : Store).after history) =
        (.ok ((({} : Store).ledger history).violationsOf auditId), ({} : Store).after history)) ∧
    (∀ now owner name,
      Set.InjOn Sha256.hex (insert (repositoryText owner name)
        {text | ∃ sync ∈ (({} : Store).ledger history).syncs,
          repositoryText sync.owner sync.name = text}) →
      runOn ((StoreCall.repository? (repositoryId owner name)).op now) (({} : Store).after history) =
        (.ok ((({} : Store).ledger history).repository? owner name), ({} : Store).after history)) ∧
    ∀ owner name owner' name', Validation.Names owner name → Validation.Names owner' name' →
      (SameNames owner name owner' name' ↔
        Text.eqIgnoringAsciiCase owner.toList owner'.toList = true ∧
          Text.eqIgnoringAsciiCase name.toList name'.toList = true) := by
  have h : (({} : Store).after history).Mirrors (({} : Store).ledger history) :=
    mirrors_empty.after hids
  generalize ({} : Store).after history = s at h
  generalize ({} : Store).ledger history = l at h
  refine ⟨fun now repositoryId => ?_, fun now auditId => ?_, fun now owner name hsha => ?_,
    fun owner name owner' name' => sameNames_iff⟩
  · have hlisted : s.auditsOf repositoryId = l.auditsOf repositoryId := h.audits.auditsOf_eq repositoryId
    exact congrArg (fun answer => (Except.ok answer, s)) hlisted
  · exact congrArg (fun answer => (Except.ok answer, s)) (h.violations auditId)
  · exact congrArg (fun answer => (Except.ok answer, s)) (h.repositories.repository?_eq hsha)

section Completed

/-- A repository is recorded. -/
def firstSync : Sync :=
  ⟨"acme", "tool", "https://github.com/acme/tool", ⟨0, 1, 0⟩⟩

/-- It is recorded once more, in other letters. -/
def secondSync : Sync :=
  ⟨"Acme", "Tool", "https://github.com/Acme/Tool", ⟨0, 2, 0⟩⟩

/-- The store once it was recorded twice. -/
def syncedTwice : Store :=
  (({} : Store).afterUpsert firstSync.time firstSync.owner firstSync.name firstSync.url).afterUpsert
    secondSync.time secondSync.owner secondSync.name secondSync.url

/-- The identity of the repository. -/
def acmeId : String :=
  repositoryId "Acme" "Tool"

/-- The audit of it that is opened. -/
def openedOne : Audit :=
  syncedTwice.nextAudit ⟨0, 3, 0⟩ acmeId

/-- The audit as it is completed. -/
def completedTwo : Audit :=
  completedAudit ⟨0, 4, 0⟩ 3 2 1 openedOne

/-- The repository is recorded twice, and an audit of it is opened and completed. -/
def completedHistory : List TimedCall :=
  [⟨firstSync.time, .upsertRepository firstSync.owner firstSync.name firstSync.url⟩,
    ⟨secondSync.time, .upsertRepository secondSync.owner secondSync.name secondSync.url⟩,
    ⟨⟨0, 3, 0⟩, .createAudit acmeId⟩, ⟨⟨0, 4, 0⟩, .completeAudit openedOne.id 3 2 1⟩]

/-- The entries of that history. -/
theorem ledger_completedHistory : ({} : Store).ledger completedHistory =
    [.synced firstSync, .synced secondSync, .opened acmeId openedOne,
      .settled openedOne.id completedTwo] := by
  have hfirst : runOn (TimedCall.op ⟨firstSync.time, .upsertRepository firstSync.owner firstSync.name
      firstSync.url⟩) {} = (.ok _, _) :=
    upsertRepository_ok_iff.2 ⟨by decide +kernel, rfl, rfl⟩
  have hsecond : runOn (TimedCall.op ⟨secondSync.time, .upsertRepository secondSync.owner
      secondSync.name secondSync.url⟩) (({} : Store).afterUpsert firstSync.time firstSync.owner
        firstSync.name firstSync.url) = (.ok _, syncedTwice) :=
    upsertRepository_ok_iff.2 ⟨by decide +kernel, rfl, rfl⟩
  have hknown : (syncedTwice.repository? acmeId).isSome := by
    unfold syncedTwice acmeId secondSync
    rw [repository?_afterUpsert]
    rfl
  have hopen : runOn (TimedCall.op ⟨⟨0, 3, 0⟩, .createAudit acmeId⟩) syncedTwice =
      (.ok openedOne, syncedTwice.afterCreate ⟨0, 3, 0⟩ acmeId) :=
    createAudit_ok_iff.2 ⟨Validation.id_deriveId _ _, hknown, rfl, rfl⟩
  have hfound : (syncedTwice.afterCreate ⟨0, 3, 0⟩ acmeId).audit? openedOne.id = some openedOne :=
    audit?_afterCreate_of_unused ⟨rfl, rfl⟩
  have hcomplete : runOn (TimedCall.op ⟨⟨0, 4, 0⟩, .completeAudit openedOne.id 3 2 1⟩)
      (syncedTwice.afterCreate ⟨0, 3, 0⟩ acmeId) = (.ok completedTwo, _) :=
    completeAudit_ok_iff.2 ⟨Validation.id_deriveId _ _, openedOne, hfound, rfl, rfl, rfl⟩
  unfold completedHistory
  rw [ledger_cons_of_eq hfirst, ledger_cons_of_eq hsecond, ledger_cons_of_eq hopen,
    ledger_cons_of_eq hcomplete]
  rfl

/-- The audit is listed as it was completed, and the repository is found in any letters, with the
names and the time of the first time and the URL and the time of the second. -/
theorem reads_back_completed :
    (({} : Store).ledger completedHistory).auditIds.Nodup ∧
      (runOn ((StoreCall.listAudits acmeId).op ⟨0, 5, 0⟩) (({} : Store).after completedHistory)).1 =
        .ok [completedTwo] ∧
      (runOn ((StoreCall.repository? (repositoryId "ACME" "TOOL")).op ⟨0, 5, 0⟩)
        (({} : Store).after completedHistory)).1 =
          .ok (some { id := repositoryId "ACME" "TOOL", owner := "acme", name := "tool",
                      url := "https://github.com/Acme/Tool", createdAt := ⟨0, 1, 0⟩,
                      lastSyncedAt := ⟨0, 2, 0⟩ }) := by
  have hids : (({} : Store).ledger completedHistory).auditIds.Nodup := by
    rw [ledger_completedHistory]
    exact List.nodup_singleton _
  -- All texts that are hashed for the repository are one.
  have htext : ∀ text ∈ insert (repositoryText "ACME" "TOOL")
      {text | ∃ sync ∈ (({} : Store).ledger completedHistory).syncs,
        repositoryText sync.owner sync.name = text}, text = repositoryText "acme" "tool" := by
    rw [ledger_completedHistory]
    rintro text (rfl | ⟨sync, hsync, rfl⟩)
    · exact repositoryText_eq_of_sameNames (by decide +kernel)
    · have hsyncs : ∀ sync ∈ [firstSync, secondSync],
          SameNames sync.owner sync.name "acme" "tool" := by decide +kernel
      exact repositoryText_eq_of_sameNames (hsyncs sync hsync)
  have hsha := Set.Subsingleton.injOn (f := Sha256.hex)
    fun text htext' text' htext'' => (htext text htext').trans (htext text' htext'').symm
  obtain ⟨haudits, -, hrepository, -⟩ := reads_back completedHistory hids
  refine ⟨hids, ?_, ?_⟩
  · rw [haudits, ledger_completedHistory]
    have hlisted : Ledger.auditsOf [.synced firstSync, .synced secondSync, .opened acmeId openedOne,
        .settled openedOne.id completedTwo] acmeId = [completedTwo] := by
      simp [Ledger.auditsOf, Ledger.openings, Ledger.Dropped, Ledger.current, Ledger.settlements]
    rw [hlisted]
  · rw [hrepository _ _ _ hsha, ledger_completedHistory]
    have hsyncs : [firstSync, secondSync].filter (fun sync =>
        SameNames "ACME" "TOOL" sync.owner sync.name) = [firstSync, secondSync] := by decide +kernel
    exact congrArg (fun syncs => Except.ok (Ledger.summary _ syncs)) hsyncs

/-- A repository `k/x` is found under the identity of a name with the sign for kelvin, whose lower
case is `k`. A store does not accept such a name, and it is not equal to the other one up to the case
of ASCII letters. -/
theorem repository?_kelvin_sign :
    (({} : Store).after [⟨⟨0, 1, 0⟩, .upsertRepository "k" "x" "https://github.com/k/x"⟩]).repository?
        (repositoryId "\u212A" "x") ≠ none ∧
      ¬ ∃ sync ∈ (({} : Store).ledger
          [⟨⟨0, 1, 0⟩, .upsertRepository "k" "x" "https://github.com/k/x"⟩]).syncs,
        Text.eqIgnoringAsciiCase "\u212A".toList sync.owner.toList = true ∧
          Text.eqIgnoringAsciiCase "x".toList sync.name.toList = true := by
  have hrun : runOn (TimedCall.op ⟨⟨0, 1, 0⟩, .upsertRepository "k" "x" "https://github.com/k/x"⟩) {} =
      (.ok _, ({} : Store).afterUpsert ⟨0, 1, 0⟩ "k" "x" "https://github.com/k/x") :=
    upsertRepository_ok_iff.2 ⟨by decide +kernel, rfl, rfl⟩
  have hsame : SameNames "\u212A" "x" "k" "x" := by decide +kernel
  have hid : repositoryId "\u212A" "x" = repositoryId "k" "x" :=
    congrArg Sha256.hex (repositoryText_eq_of_sameNames hsame)
  constructor
  · rw [hid, Store.after, hrun, Store.after, repository?_afterUpsert]
    exact Option.some_ne_none _
  · rw [ledger_cons_of_eq hrun]
    rintro ⟨sync, hsync, hequal⟩
    obtain rfl := List.mem_singleton.1 hsync
    exact absurd hequal (by decide)

end Completed

end SourceAudit.Store
