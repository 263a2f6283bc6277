import SourceAudit.Proofs.Pattern.Extent
import SourceAudit.Proofs.Store.Validation
import SourceAudit.Proofs.Text.Control
import SourceAudit.Rule.Import

/-!
# How descriptions are worded

A description is a fixed wording around what a rule quotes of a line. The wording is one that the
store takes, so what is quoted decides (`Validation.Clean.append`). `Rule.Describes` says of a rule
that its reports stand at lines, which count from 1, and that their descriptions satisfy a property;
for a rule that judges line by line it is enough to look at one line (`describes_of_perLine`).
-/

namespace SourceAudit

namespace Validation

/-- A text stays clean if what is added to it is clear and short enough. -/
theorem Clean.append {s t : String} {m n max : Nat} (hs : Clean m s) (ht : Text.Clear t)
    (hlength : t.length ≤ n) (hmax : m + n ≤ max) : Clean max (s ++ t) := by
  have hshort := hs.short
  refine ⟨hs.worded.append t, ?_, Text.clear_append.2 ⟨hs.clear, ht⟩⟩
  rw [String.length_append]
  omega

/-- Clean texts make a clean text as far as there is room for both. -/
theorem Clean.concat {s t : String} {m n max : Nat} (hs : Clean m s) (ht : Clean n t)
    (hmax : m + n ≤ max) : Clean max (s ++ t) :=
  hs.append ht.clear ht.short hmax

/-- A quotation that is clear and short enough is clean in clean words. -/
theorem Clean.quote {before quoted after : String} {l m n max : Nat} (hbefore : Clean l before)
    (hquoted : Text.Clear quoted) (hlength : quoted.length ≤ m) (hafter : Clean n after)
    (hmax : l + m + n ≤ max) : Clean max (before ++ quoted ++ after) :=
  (hbefore.append hquoted hlength (Nat.le_refl _)).concat hafter hmax

/-- A text is clean if a look at its characters says so; a literal is given by them. -/
theorem clean_ofList {s : List Char} {max : Nat}
    (h : (s.any (!Text.isBlank ·) && decide (s.length ≤ max) && s.all (!Text.isControl ·)) = true) :
    Clean max (String.ofList s) := by
  rw [Bool.and_eq_true, Bool.and_eq_true] at h
  obtain ⟨⟨hworded, hshort⟩, hclear⟩ := h
  refine ⟨?_, ?_, ?_⟩
  · rw [Text.Worded, String.toList_ofList]
    simpa using hworded
  · rw [String.length_ofList]
    simpa using hshort
  · rw [Text.Clear, String.toList_ofList]
    simpa using hclear

end Validation

namespace Text

/-- A text is clear if its characters are. -/
theorem clear_ofList {s : List Char} : Clear (String.ofList s) ↔ ∀ c ∈ s, isControl c = false := by
  rw [Clear, String.toList_ofList]

/-- Names in quotes are clear if the names are. -/
theorem clear_quotedList {names : List String} (h : ∀ name ∈ names, Clear name) :
    Clear (Rule.quotedList names) := by
  have hquoted : ∀ name ∈ names, Clear ("'" ++ name ++ "'") := by
    intro name hname
    rw [clear_append, clear_append]
    exact ⟨⟨by decide, h name hname⟩, by decide⟩
  rw [Rule.quotedList]
  clear h
  induction names with
  | nil => exact List.forall_mem_nil _
  | cons name rest ih =>
    obtain ⟨hname, hrest⟩ := List.forall_mem_cons.1 hquoted
    cases rest with
    | nil =>
      rw [List.map_cons, List.map_nil, String.intercalate_singleton]
      exact hname
    | cons next rest =>
      rw [List.map_cons, List.map_cons, String.intercalate_cons_cons, clear_append, clear_append]
      exact ⟨⟨hname, by decide⟩, ih hrest⟩

end Text

namespace Pattern

/-- No character that the pattern may take is a control character. -/
abbrev TakesClear (p : Pattern) : Prop :=
  p.Takes fun c => Text.isControl c = false

@[simp] theorem within_sameLetter {c : Char} :
    Within (fun d => Text.isControl d = false) (sameLetter c) ↔ Text.isControl c = false := by
  constructor
  · intro h
    refine h c ?_
    simp [sameLetter]
  · exact fun h d hd => Text.isControl_of_sameLetter hd h

/-- What a clear pattern reads is clear. -/
theorem Reads.clear {p : Pattern} {text : List Char} {groups : List (Nat × List Char)}
    (h : p.Reads text groups) (hp : p.TakesClear) : Text.Clear (String.ofList text) :=
  Text.clear_ofList.2 (h.forall_mem hp)

/-- What a group keeps is clear if the bodies of its number are. -/
theorem Reads.clear_group {p : Pattern} {f : Found} (h : p.Reads f.text f.groups) {n : Nat}
    (hp : ∀ body ∈ p.bodies n, body.TakesClear) : Text.Clear (String.ofList (f.group n)) :=
  Text.clear_ofList.2 (h.forall_group hp)

end Pattern

namespace Rule

/-- Every report of the rule is at a line, and its description satisfies `P`. -/
def Describes (r : Rule) (P : String → Prop) : Prop :=
  ∀ (c : Context) (lines : List Text.Line), ∀ report ∈ r.reports c lines,
    1 ≤ report.line ∧ P report.description

variable {r : Rule} {P Q : String → Prop}

/-- A weaker property is satisfied too. -/
theorem Describes.imp (h : r.Describes P) (hPQ : ∀ d, P d → Q d) : r.Describes Q :=
  fun c lines report hreport => (h c lines report hreport).imp_right (hPQ _)

/-- Lines are numbered upwards, and a report is what the judgement of a line gives. -/
theorem mem_perLineFrom {judge : Text.Line → List Text.Line → Option String} {n : Nat}
    {lines : List Text.Line} {report : Report} (h : report ∈ perLineFrom judge n lines) :
    n ≤ report.line ∧ ∃ line later, judge line later = some report.description := by
  induction lines generalizing n with
  | nil => cases h
  | cons line rest ih =>
    have hlater : report ∈ perLineFrom judge (n + 1) rest →
        n ≤ report.line ∧ ∃ line later, judge line later = some report.description := by
      intro h
      obtain ⟨hline, hjudge⟩ := ih h
      exact ⟨by omega, hjudge⟩
    simp only [perLineFrom] at h
    split at h
    · exact hlater h
    split at h
    · rename_i description hdescription
      rcases List.mem_cons.1 h with rfl | h
      · exact ⟨Nat.le_refl n, line, rest, hdescription⟩
      · exact hlater h
    · exact hlater h

/-- A judgement in fixed words is clean if the words are. -/
theorem clean_of_ite {judged : Prop} [Decidable judged] {words description : String} {max : Nat}
    (hwords : Validation.Clean max words)
    (h : (if judged then some words else none) = some description) :
    Validation.Clean max description := by
  split at h
  · obtain rfl := Option.some.inj h
    exact hwords
  · cases h

/-- A judgement that names an entry of a table is clean if the names in the table are. -/
theorem clean_of_find? {α : Type} {table : List α} {matched : α → Bool} {name : α → String}
    {start description : String} {m n max : Nat} (hstart : Validation.Clean m start)
    (htable : ∀ a ∈ table, Validation.Clean n (name a)) (hmax : m + n ≤ max)
    (h : ((table.find? matched).map fun a => start ++ name a) = some description) :
    Validation.Clean max description := by
  obtain ⟨a, hfind, rfl⟩ := Option.map_eq_some_iff.1 h
  exact hstart.concat (htable a (List.mem_of_find?_eq_some hfind)) hmax

/-- What holds of the judgement of a line holds of all that a rule reports line by line. -/
theorem describes_of_perLine {judge : Context → Text.Line → List Text.Line → Option String}
    (hr : r.reports = fun c => perLine (judge c))
    (h : ∀ c line later description, judge c line later = some description → P description) :
    r.Describes P := by
  intro c lines report hreport
  rw [hr] at hreport
  obtain ⟨hline, line, later, hjudge⟩ := mem_perLineFrom hreport
  exact ⟨hline, h c line later _ hjudge⟩

end Rule

end SourceAudit
