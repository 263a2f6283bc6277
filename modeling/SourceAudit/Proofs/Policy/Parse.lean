import Mathlib.Data.List.Sort
import SourceAudit.Policy
import SourceAudit.Proofs.Text.Pieces

/-!
# What a manifest declares

The lines of a manifest are read one by one, and without the white space around them
(`ManifestItem.parse?_trim`). So the policy is known by which lines there are in the manifest
(`Policy.parse_congr`): neither their order counts nor how often one of them is there, nor whether a
carriage return stands at their ends (`Policy.manifestLines_withReturns`). The lines of two manifests
that are put together are those of both (`Policy.manifestLines_append`), and with more lines a policy
allows no less and forbids no less (`Policy.parse_mono`).
-/

namespace SourceAudit

/-- Sets with the same members are the same. -/
theorem NameSet.ext {s t : NameSet} (h : ∀ name, name ∈ s ↔ name ∈ t) : s = t := by
  obtain ⟨names, hnames⟩ := s
  obtain ⟨others, hothers⟩ := t
  -- The names are in strict order, so none is there twice and there is one way to list them.
  have hnodup : ∀ {l : List String}, l.Pairwise (· < ·) → l.Nodup := fun hl =>
    hl.imp fun hlt => by
      rintro rfl
      exact String.lt_irrefl _ hlt
  have hperm : names.Perm others :=
    (List.perm_ext_iff_of_nodup (hnodup hnames) (hnodup hothers)).2 h
  obtain rfl : names = others := hperm.eq_of_pairwise
    (fun _ _ _ _ hab hba => absurd (String.lt_trans hab hba) (String.lt_irrefl _)) hnames hothers
  rfl

open Text

namespace ManifestItem

/-- A line says what it says without the white space around it. -/
theorem parse?_trim (line : List Char) : parse? (trim line) = parse? line := by
  rw [parse?, parse?, trim_trim]

/-- A line of white space says nothing. -/
theorem parse?_of_trim_eq_nil {line : List Char} (h : trim line = []) : parse? line = none := by
  rw [parse?, h]
  rfl

end ManifestItem

namespace Policy

/-! ### Sets of items -/

theorem mem_allowed_foldl {name : String} (items : List ManifestItem) (p : Policy) :
    name ∈ (items.foldl add p).allowed ↔ name ∈ p.allowed ∨ .allow name ∈ items := by
  induction items generalizing p with
  | nil => simp
  | cons item rest ih =>
    rw [List.foldl_cons, ih]
    cases item with
    | allow other => simp [add, NameSet.mem_insert, or_assoc, or_left_comm]
    | deny other => simp [add]

theorem mem_forbidden_foldl {name : String} (items : List ManifestItem) (p : Policy) :
    name ∈ (items.foldl add p).forbidden ↔ name ∈ p.forbidden ∨ .deny name ∈ items := by
  induction items generalizing p with
  | nil => simp
  | cons item rest ih =>
    rw [List.foldl_cons, ih]
    cases item with
    | allow other => simp [add]
    | deny other => simp [add, NameSet.mem_insert, or_assoc, or_left_comm]

/-- The packages that are allowed are those of which an item says so. -/
theorem mem_allowed_ofItems {name : String} {items : List ManifestItem} :
    name ∈ (ofItems items).allowed ↔ .allow name ∈ items :=
  (mem_allowed_foldl items empty).trans (or_iff_right List.not_mem_nil)

/-- The packages that are forbidden are those of which an item says so. -/
theorem mem_forbidden_ofItems {name : String} {items : List ManifestItem} :
    name ∈ (ofItems items).forbidden ↔ .deny name ∈ items :=
  (mem_forbidden_foldl items empty).trans (or_iff_right List.not_mem_nil)

/-! ### The lines of a manifest -/

/-- The lines of a manifest without the white space around them, and without empty ones. -/
def manifestLines (manifest : String) : List Line :=
  ((lines manifest.toList).map trim).filter (!·.isEmpty)

/-- What the lines of a manifest say is said by them without the white space around them. -/
theorem mem_items_iff {manifest : String} {item : ManifestItem} :
    item ∈ (lines manifest.toList).filterMap ManifestItem.parse? ↔
      ∃ line ∈ manifestLines manifest, ManifestItem.parse? line = some item := by
  rw [List.mem_filterMap]
  constructor
  · rintro ⟨line, hline, hitem⟩
    refine ⟨trim line, List.mem_filter.2 ⟨List.mem_map_of_mem hline, ?_⟩, ?_⟩
    · rcases htrim : trim line with _ | ⟨c, rest⟩
      · rw [ManifestItem.parse?_of_trim_eq_nil htrim] at hitem
        cases hitem
      · rfl
    · rw [ManifestItem.parse?_trim, hitem]
  · rintro ⟨trimmed, htrimmed, hitem⟩
    obtain ⟨line, hline, rfl⟩ := List.mem_map.1 (List.mem_filter.1 htrimmed).1
    exact ⟨line, hline, by rwa [ManifestItem.parse?_trim] at hitem⟩

/-- The packages that a manifest allows. -/
theorem mem_allowed_parse {manifest name : String} :
    name ∈ (parse manifest).allowed ↔
      ∃ line ∈ manifestLines manifest, ManifestItem.parse? line = some (.allow name) := by
  rw [parse, mem_allowed_ofItems, mem_items_iff]

/-- The packages that a manifest forbids. -/
theorem mem_forbidden_parse {manifest name : String} :
    name ∈ (parse manifest).forbidden ↔
      ∃ line ∈ manifestLines manifest, ManifestItem.parse? line = some (.deny name) := by
  rw [parse, mem_forbidden_ofItems, mem_items_iff]

/-- The lines are what stands between line feeds; the carriage return before one is white space. -/
theorem manifestLines_eq (manifest : String) :
    manifestLines manifest = ((cut '\n' manifest.toList).map trim).filter (!·.isEmpty) := by
  have hreturn : ∀ read, trim (dropReturn read).reverse = trim read.reverse := by
    intro read
    unfold dropReturn
    split
    · rw [List.reverse_cons, trim_concat (by decide)]
    · rfl
  -- By induction on what is left of the text, whatever was read of the line so far.
  have hfrom : ∀ (text read : List Char),
      ((linesFrom read text).map trim).filter (!·.isEmpty) =
        ((cutFrom (· == '\n') read text).map trim).filter (!·.isEmpty) := by
    intro text
    induction text with
    | nil =>
      intro read
      rw [linesFrom, cutFrom]
      split
      · rename_i hempty
        rw [List.isEmpty_iff.1 hempty]
        rfl
      · rfl
    | cons c rest ih =>
      intro read
      rw [linesFrom, cutFrom]
      by_cases hc : c = '\n'
      · rw [if_pos hc, if_pos (beq_iff_eq.2 hc), List.map_cons, List.map_cons, List.filter_cons,
          List.filter_cons, hreturn, ih]
      · rw [if_neg hc, if_neg fun h => hc (beq_iff_eq.1 h), ih]
  exact hfrom manifest.toList []

/-- The lines of two manifests, one behind the other, are those of both. -/
theorem manifestLines_append (a b : String) :
    manifestLines (a ++ "\n" ++ b) = manifestLines a ++ manifestLines b := by
  have htext : (a ++ "\n" ++ b).toList = a.toList ++ '\n' :: b.toList := by
    rw [String.toList_append, String.toList_append, List.append_assoc]
    rfl
  rw [manifestLines_eq, manifestLines_eq, manifestLines_eq, htext, cut, cutWhere,
    cutFrom_append (p := (· == '\n')) (beq_self_eq_true '\n'), List.map_append, List.filter_append]
  rfl

/-- A text with a carriage return before every line feed. -/
def withReturns (text : String) : String :=
  String.ofList (text.toList.flatMap fun c => if c = '\n' then ['\r', '\n'] else [c])

/-- Carriage returns before the line feeds leave the lines of a manifest. -/
theorem manifestLines_withReturns (manifest : String) :
    manifestLines (withReturns manifest) = manifestLines manifest := by
  have hfrom : ∀ text piece : List Char,
      (cutFrom (· == '\n') piece
        (text.flatMap fun c => if c = '\n' then ['\r', '\n'] else [c])).map trim =
          (cutFrom (· == '\n') piece text).map trim := by
    intro text
    induction text with
    | nil => exact fun piece => rfl
    | cons c rest ih =>
      intro piece
      rw [List.flatMap_cons, cutFrom]
      by_cases hc : c = '\n'
      · -- The carriage return ends the piece, where it is trimmed.
        have hcut : ∀ more, cutFrom (· == '\n') piece ('\r' :: '\n' :: more) =
            ('\r' :: piece).reverse :: cutFrom (· == '\n') [] more := fun more => rfl
        rw [if_pos hc, if_pos (beq_iff_eq.2 hc), List.cons_append, List.singleton_append, hcut,
          List.map_cons, List.map_cons, List.reverse_cons, trim_concat (by decide), ih]
      · rw [if_neg hc, if_neg fun h => hc (beq_iff_eq.1 h), List.singleton_append, cutFrom,
          if_neg fun h => hc (beq_iff_eq.1 h), ih]
  rw [manifestLines_eq, manifestLines_eq, withReturns, String.toList_ofList, cut, cut, cutWhere,
    cutWhere, hfrom]

/-! ### More lines -/

variable {a b : String}

/-- What is allowed and what is forbidden grows with the lines of a manifest. -/
theorem parse_mono (h : ∀ line ∈ manifestLines a, line ∈ manifestLines b) :
    (∀ name ∈ (parse a).allowed, name ∈ (parse b).allowed) ∧
      ∀ name ∈ (parse a).forbidden, name ∈ (parse b).forbidden := by
  simp only [mem_allowed_parse, mem_forbidden_parse]
  exact ⟨fun name ⟨line, hline, hitem⟩ => ⟨line, h line hline, hitem⟩,
    fun name ⟨line, hline, hitem⟩ => ⟨line, h line hline, hitem⟩⟩

/-- The same lines make the same policy. -/
theorem parse_congr (h : ∀ line, line ∈ manifestLines a ↔ line ∈ manifestLines b) :
    parse a = parse b := by
  obtain ⟨hallowed, hforbidden⟩ := parse_mono fun line => (h line).1
  obtain ⟨hallowed', hforbidden'⟩ := parse_mono fun line => (h line).2
  have heq : (parse a).allowed = (parse b).allowed ∧ (parse a).forbidden = (parse b).forbidden :=
    ⟨NameSet.ext fun name => ⟨hallowed name, hallowed' name⟩,
      NameSet.ext fun name => ⟨hforbidden name, hforbidden' name⟩⟩
  rcases hb : parse b with ⟨allowed, forbidden⟩
  rcases ha : parse a with ⟨allowed', forbidden'⟩
  rw [ha, hb] at heq
  obtain ⟨rfl, rfl⟩ := heq
  rfl

/-- Where more is allowed, more is declared. -/
theorem declares_mono {p q : Policy} (h : ∀ name ∈ p.allowed, name ∈ q.allowed) {module : String}
    (hp : p.declares module = true) : q.declares module = true := by
  rw [declares, Bool.or_eq_true, isAllowed, NameSet.contains_iff, List.any_eq_true] at hp ⊢
  exact hp.imp (h _) fun ⟨name, hname, hallowed⟩ =>
    ⟨name, hname, NameSet.contains_iff.2 (h name (NameSet.contains_iff.1 hallowed))⟩

/-- Where more is forbidden, more is denied. -/
theorem denies_mono {p q : Policy} (h : ∀ name ∈ p.forbidden, name ∈ q.forbidden) {module : String}
    (hp : p.denies module = true) : q.denies module = true := by
  rw [denies, Bool.or_eq_true, isForbidden, NameSet.contains_iff, List.any_eq_true] at hp ⊢
  exact hp.imp (h _) fun ⟨name, hname, hforbidden⟩ =>
    ⟨name, hname, NameSet.contains_iff.2 (h name (NameSet.contains_iff.1 hforbidden))⟩

end Policy

end SourceAudit
