import SourceAudit.Proofs.Line.Import
import SourceAudit.Proofs.Rule.Reports

/-!
# Repeated imports

The rule on repeated imports goes through the lines of a file and notes as text what each brings in, with
the line where it stands first. The texts stand for bindings (`Binding`): in a language, a name from a
module or the whole module, so many levels up. The same text stands for two bindings exactly if they are
alike (`Binding.alike_iff`): the same but for how many levels up they are, or in two languages.

What is noted is where each text stands first among all that was brought in (`Notes`), which every line
keeps up (`noteBindings_spec`). So a line is reported exactly if it brings in a binding like one that was
brought in before, and the report names the line of the first such (`reports_duplicateImport`). Alike is
not the same (`Binding.Alike.eq_or`): `from .. import a` counts as a repetition of `from . import a`
(`reports_duplicateImport_levels`).
-/

namespace SourceAudit.Rule

open Text (Line)

/-! ### Bindings -/

/-- What an import brings in: a name from a module, or the module if there is no name. -/
structure Binding where
  dialect : Dialect
  /-- How far up the path of the module starts: the number of leading dots, and none if the import is
  not relative. -/
  level : Nat
  module : List Char
  name? : Option (List Char)
deriving DecidableEq, Repr

namespace Binding

/-- The binding for a path as it is written. A dot in front of the path of an import that is not
relative, which no import of Python has, makes it relative. -/
def ofPath (dialect : Dialect) (level : Nat) (path : List Char) (name? : Option (List Char)) : Binding :=
  match level, path with
  | 0, '.' :: rest => ⟨dialect, 1, rest, name?⟩
  | level, path => ⟨dialect, level, path, name?⟩

/-- The text that stands for a name from a module, or for the whole module. -/
def nameText : Option (List Char) → List Char
  | some name => ':' :: name
  | none => []

/-- The text that stands for a binding. -/
def text (b : Binding) : List Char :=
  (if b.level = 0 then b.module else '.' :: b.module) ++ nameText b.name?

/-- Two bindings are alike if they are the same but for the number of their leading dots, of which both
have some or none; in two languages, if the texts that stand for them are the same. -/
def Alike (a b : Binding) : Prop :=
  if a.dialect = b.dialect then
    (a.level = 0 ↔ b.level = 0) ∧ a.module = b.module ∧ a.name? = b.name?
  else a.text = b.text

instance (a b : Binding) : Decidable (a.Alike b) :=
  inferInstanceAs (Decidable (if a.dialect = b.dialect then
    (a.level = 0 ↔ b.level = 0) ∧ a.module = b.module ∧ a.name? = b.name? else a.text = b.text))

/-- Bindings that are alike are the same, or relative ones from different levels, or in two
languages. -/
theorem Alike.eq_or {a b : Binding} (h : a.Alike b) :
    a = b ∨ (a.dialect = b.dialect ∧ a.level ≠ 0 ∧ b.level ≠ 0 ∧ a.level ≠ b.level) ∨
      a.dialect ≠ b.dialect := by
  unfold Alike at h
  split at h
  · rename_i hdialect
    obtain ⟨hlevel, hmodule, hname⟩ := h
    by_cases hsame : a.level = b.level
    · rcases a with ⟨dialect, level, module, name?⟩
      rcases b with ⟨dialect', level', module', name?'⟩
      obtain rfl : dialect = dialect' := hdialect
      obtain rfl : level = level' := hsame
      obtain rfl : module = module' := hmodule
      obtain rfl : name? = name?' := hname
      exact .inl rfl
    · exact .inr (.inl ⟨hdialect, by omega, by omega, hsame⟩)
  · rename_i hdialect
    exact .inr (.inr hdialect)

/-- What is known of bindings that imports bring in. -/
structure Wellformed (b : Binding) : Prop where
  /-- The path of a module starts with a dot only where the import is relative. -/
  absolute : b.level = 0 → b.module.head? ≠ some '.'
  /-- The path of a Python module has no colon, -/
  python : b.dialect = .python → ':' ∉ b.module
  /-- and a JavaScript import brings in the whole module. -/
  whole : b.dialect = .javaScript → b.name? = none

/-- Paths with their marks are the same if the paths are, and both have a mark or none. -/
theorem marked_eq_iff {n m : Nat} {path path' : List Char} (h : n = 0 → path.head? ≠ some '.')
    (h' : m = 0 → path'.head? ≠ some '.') :
    (if n = 0 then path else '.' :: path) = (if m = 0 then path' else '.' :: path') ↔
      (n = 0 ↔ m = 0) ∧ path = path' := by
  split
  · rename_i hn
    split
    · rename_i hm
      simp [hn, hm]
    · rename_i hm
      refine ⟨?_, fun hboth => absurd (hboth.1.1 hn) hm⟩
      rintro rfl
      exact absurd rfl (h hn)
  · rename_i hn
    split
    · rename_i hm
      refine ⟨?_, fun hboth => absurd (hboth.1.2 hm) hn⟩
      rintro rfl
      exact absurd rfl (h' hm)
    · rename_i hm
      simp [hn, hm]

/-- A path without a colon and what is taken from its module can be told from the text of both. -/
theorem append_nameText_inj {path path' : List Char} {name? name?' : Option (List Char)}
    (h : ':' ∉ path) (h' : ':' ∉ path') (heq : path ++ nameText name? = path' ++ nameText name?') :
    path = path' ∧ name? = name?' := by
  have hbefore : ∀ {path : List Char} {name? : Option (List Char)}, ':' ∉ path →
      (path ++ nameText name?).takeWhile (· != ':') = path := by
    intro path name? hpath
    have hall : ∀ c ∈ path, (c != ':') = true := fun c hc =>
      bne_iff_ne.2 fun hcolon => hpath (hcolon ▸ hc)
    rw [List.takeWhile_append_of_pos hall]
    rcases name? with _ | name
    · simp [nameText]
    · simp [nameText]
  have hpath : path = path' := by rw [← hbefore h, heq, hbefore h']
  refine ⟨hpath, ?_⟩
  rw [hpath, List.append_cancel_left_eq] at heq
  rcases name? with _ | name <;> rcases name?' with _ | name'
  · rfl
  · cases heq
  · cases heq
  · rw [(List.cons.inj heq).2]

/-- Bindings are alike exactly if the same text stands for them. -/
theorem alike_iff {a b : Binding} (ha : a.Wellformed) (hb : b.Wellformed) :
    a.Alike b ↔ a.text = b.text := by
  unfold Alike
  split
  swap
  · exact Iff.rfl
  rename_i hdialect
  have hmarked := marked_eq_iff ha.absolute hb.absolute
  constructor
  · rintro ⟨hlevel, hmodule, hname⟩
    rw [text, text, hmarked.2 ⟨hlevel, hmodule⟩, hname]
  · intro htext
    have hparts : (if a.level = 0 then a.module else '.' :: a.module) =
        (if b.level = 0 then b.module else '.' :: b.module) ∧ a.name? = b.name? := by
      rcases hpython : a.dialect
      · have hcolon : ∀ {b : Binding}, b.Wellformed → b.dialect = .python →
            ':' ∉ (if b.level = 0 then b.module else '.' :: b.module) := by
          intro b hb hpython
          split
          · exact hb.python hpython
          · simpa using hb.python hpython
        exact append_nameText_inj (hcolon ha hpython) (hcolon hb (hdialect.symm.trans hpython)) htext
      · have hwhole := ha.whole hpython
        have hwhole' := hb.whole (hdialect.symm.trans hpython)
        rw [text, text, hwhole, hwhole', nameText, List.append_nil, List.append_nil] at htext
        exact ⟨htext, hwhole.trans hwhole'.symm⟩
    exact ⟨(hmarked.1 hparts.1).1, (hmarked.1 hparts.1).2, hparts.2⟩

/-- A path is made well-formed. -/
theorem wellformed_ofPath {dialect : Dialect} {level : Nat} {path : List Char}
    {name? : Option (List Char)} (hpython : dialect = .python → ':' ∉ path)
    (hwhole : dialect = .javaScript → name? = none) :
    (ofPath dialect level path name?).Wellformed := by
  unfold ofPath
  split
  · exact ⟨nofun, fun h hcolon => hpython h (List.mem_cons_of_mem _ hcolon), hwhole⟩
  · rename_i hpath
    refine ⟨fun hlevel hhead => ?_, hpython, hwhole⟩
    obtain ⟨rest, rfl⟩ := List.head?_eq_some_iff.1 hhead
    exact hpath rest hlevel rfl

/-- The text of a path as it is written, with a mark if the import is relative. -/
theorem text_ofPath (dialect : Dialect) (level : Nat) (path : List Char)
    (name? : Option (List Char)) :
    (ofPath dialect level path name?).text =
      (if level = 0 then path else '.' :: path) ++ nameText name? := by
  unfold ofPath
  split
  · rfl
  · rfl

end Binding

/-! ### What a line brings in -/

/-- How far up a relative import starts: in Python the number of leading dots, while in JavaScript the
path keeps its dots. -/
def levelOn (line : Line) (i : Import) : Nat :=
  match i.dialect with
  | .python => ((Import.pythonFrom.find? line).map fun f => (f.group 1).length).getD 0
  | .javaScript => if i.relative then 1 else 0

/-- What the import on a line brings in. -/
def broughtBy (line : Line) (i : Import) : List Binding :=
  if i.names.isEmpty then i.modules.map fun path => .ofPath i.dialect (levelOn line i) path none
  else i.names.map fun name =>
    .ofPath i.dialect (levelOn line i) (i.modules.head?.getD []) (some name)

/-- What a line brings in. A line that looks binary brings in nothing. -/
def brought (line : Line) : List Binding :=
  if Line.looksBinary line then []
  else ((Import.parse? line).map (broughtBy line)).getD []

/-- An import is relative if it starts somewhere up. -/
theorem relative_eq {line : Line} {i : Import} (h : Import.parse? line = some i) :
    i.relative = !(levelOn line i == 0) := by
  have hjs : ∀ {i : Import}, i.dialect = .javaScript → i.relative = !(levelOn line i == 0) := by
    intro i hi
    rw [levelOn, hi]
    rcases i.relative
    · rfl
    · rfl
  rw [Import.parse?] at h
  split at h
  · obtain rfl := Option.some.inj h
    exact hjs rfl
  split at h
  · rename_i f hfind
    obtain rfl := Option.some.inj h
    simp only [levelOn, hfind, Option.map_some, Option.getD_some]
    rcases f.group 1 with _ | ⟨c, rest⟩
    · rfl
    · rfl
  rename_i hfrom
  split at h
  · obtain rfl := Option.some.inj h
    simp [levelOn, hfrom]
  · obtain ⟨f, -, rfl⟩ := Option.map_eq_some_iff.1 h
    exact hjs rfl

/-- A JavaScript import takes no names. -/
theorem names_eq_nil {line : Line} {i : Import} (h : Import.parse? line = some i)
    (hjs : i.dialect = .javaScript) : i.names = [] := by
  rw [Import.parse?] at h
  split at h
  · obtain rfl := Option.some.inj h
    rfl
  split at h
  · obtain rfl := Option.some.inj h
    cases hjs
  split at h
  · obtain rfl := Option.some.inj h
    cases hjs
  · obtain ⟨f, -, rfl⟩ := Option.map_eq_some_iff.1 h
    rfl

theorem text_broughtBy {line : Line} {i : Import} (h : Import.parse? line = some i) :
    (broughtBy line i).map Binding.text = bindings i := by
  have hmark : ∀ path : List Char, (if levelOn line i = 0 then path else '.' :: path) =
      (if i.relative then ['.'] else []) ++ path := by
    intro path
    rw [relative_eq h]
    split
    · rename_i hlevel
      simp [hlevel]
    · rename_i hlevel
      simp [hlevel]
  rw [broughtBy, bindings]
  split
  · rw [List.map_map]
    refine List.map_congr_left fun path _ => ?_
    rw [Function.comp_apply, Binding.text_ofPath, hmark, Binding.nameText, List.append_nil]
  · rw [List.map_map]
    refine List.map_congr_left fun name _ => ?_
    rw [Function.comp_apply, Binding.text_ofPath, hmark, Binding.nameText]

theorem wellformed_broughtBy {line : Line} {i : Import} (h : Import.parse? line = some i) :
    ∀ b ∈ broughtBy line i, b.Wellformed := by
  have hcolon : i.dialect = .python → ∀ path ∈ i.modules, ':' ∉ path := fun hpython path hpath hmem =>
    absurd (Import.isPathChar_of_mem_modules h hpython path hpath ':' hmem) (by decide)
  intro b hb
  rw [broughtBy] at hb
  split at hb
  · obtain ⟨path, hpath, rfl⟩ := List.mem_map.1 hb
    exact Binding.wellformed_ofPath (fun hpython => hcolon hpython path hpath) fun _ => rfl
  · rename_i hnames
    obtain ⟨name, -, rfl⟩ := List.mem_map.1 hb
    refine Binding.wellformed_ofPath (fun hpython => ?_) fun hjs => ?_
    · rcases hmodules : i.modules with _ | ⟨path, rest⟩
      · exact List.not_mem_nil
      · exact hcolon hpython path (by simp [hmodules])
    · exact absurd (names_eq_nil h hjs) (by simpa using hnames)

theorem wellformed_brought (line : Line) : ∀ b ∈ brought line, b.Wellformed := by
  intro b hb
  rw [brought] at hb
  split at hb
  · cases hb
  rcases hparse : Import.parse? line with _ | i
  · rw [hparse] at hb
    cases hb
  · rw [hparse] at hb
    exact wellformed_broughtBy hparse b hb

/-! ### What is noted -/

/-- The line on which a binding like this one was brought in first. -/
def firstLine? (past : List (Nat × Binding)) (b : Binding) : Option Nat :=
  (past.find? fun entry => entry.2.Alike b).map (·.1)

/-- Of these bindings of line `n`, with all that was brought in before them, the one that is not new
first and the line of the first one like it. -/
inductive FirstRepeat (n : Nat) : List (Nat × Binding) → List Binding → Binding → Nat → Prop
  | here {past : List (Nat × Binding)} {b : Binding} {rest : List Binding} {first : Nat} :
    firstLine? past b = some first → FirstRepeat n past (b :: rest) b first
  | later {past : List (Nat × Binding)} {b b' : Binding} {rest : List Binding} {first : Nat} :
    firstLine? past b = none → FirstRepeat n (past ++ [(n, b)]) rest b' first →
    FirstRepeat n past (b :: rest) b' first

/-- There is a first binding that is not new if there is one at all. -/
theorem exists_firstRepeat_iff {n : Nat} {past : List (Nat × Binding)} {bs : List Binding} :
    (∃ b first, FirstRepeat n past bs b first) ↔
      ∃ before b after, bs = before ++ b :: after ∧
        ∃ entry ∈ past ++ before.map (n, ·), entry.2.Alike b := by
  have hnew : ∀ {past : List (Nat × Binding)} {b : Binding},
      firstLine? past b = none ↔ ∀ entry ∈ past, ¬ entry.2.Alike b := by
    intro past b
    rw [firstLine?, Option.map_eq_none_iff, List.find?_eq_none]
    simp
  constructor
  · rintro ⟨b, first, hrepeat⟩
    induction hrepeat with
    | @here past b rest first hfound =>
      by_contra hnone
      have hfresh : firstLine? past b = none := hnew.2 fun entry hentry halike =>
        hnone ⟨[], b, rest, rfl, entry, by simpa using hentry, halike⟩
      rw [hfresh] at hfound
      cases hfound
    | @later past b b' rest first _ _ ih =>
      obtain ⟨before, b'', after, rfl, entry, hentry, halike⟩ := ih
      exact ⟨b :: before, b'', after, rfl, entry, by simpa using hentry, halike⟩
  · rintro ⟨before, b, after, rfl, entry, hentry, halike⟩
    induction before generalizing past with
    | nil =>
      rcases hfirst : firstLine? past b with _ | first
      · exact absurd halike (hnew.1 hfirst entry (by simpa using hentry))
      · exact ⟨b, first, .here hfirst⟩
    | cons b' before ih =>
      rcases hfirst : firstLine? past b' with _ | first
      · have hlater : entry ∈ (past ++ [(n, b')]) ++ before.map (n, ·) := by simpa using hentry
        obtain ⟨b'', first, hrepeat⟩ := ih hlater
        exact ⟨b'', first, .later hfirst hrepeat⟩
      · exact ⟨b', first, .here hfirst⟩

/-- What is noted are the texts of well-formed bindings, each with the line where it stands first. -/
structure Notes (seen : List (List Char × Nat)) (past : List (Nat × Binding)) : Prop where
  wellformed : ∀ entry ∈ past, entry.2.Wellformed
  first : ∀ t, (seen.find? (·.1 == t)).map (·.2) = (past.find? (·.2.text == t)).map (·.1)

/-- Where a binding like this one was brought in first can be told from the texts. -/
theorem Notes.firstLine?_eq {seen : List (List Char × Nat)} {past : List (Nat × Binding)}
    (h : Notes seen past) {b : Binding} (hb : b.Wellformed) :
    firstLine? past b = (past.find? (·.2.text == b.text)).map (·.1) := by
  have halike : past.filter (fun entry => entry.2.Alike b) = past.filter (·.2.text == b.text) :=
    List.filter_congr fun entry hentry => by
      rw [Bool.eq_iff_iff, decide_eq_true_iff, beq_iff_eq]
      exact Binding.alike_iff (h.wellformed entry hentry) hb
  rw [firstLine?, ← List.head?_filter, halike, List.head?_filter]

/-- The note of a binding is where one like it was brought in first. -/
theorem Notes.find?_text {seen : List (List Char × Nat)} {past : List (Nat × Binding)}
    (h : Notes seen past) {b : Binding} (hb : b.Wellformed) :
    seen.find? (·.1 == b.text) = (firstLine? past b).map (b.text, ·) := by
  rw [h.firstLine?_eq hb, ← h.first, Option.map_map]
  refine (Option.map_id_apply.symm.trans (Option.map_congr fun entry hentry => ?_))
  have htext : entry.1 = b.text := by simpa using List.find?_some hentry
  rw [Function.comp_apply, ← htext]
  rfl

/-- A binding that is new is noted, and one that is not new needs no note. -/
theorem Notes.concat {seen : List (List Char × Nat)} {past : List (Nat × Binding)}
    (h : Notes seen past) {b : Binding} (hb : b.Wellformed) (n : Nat) :
    Notes (if (firstLine? past b).isSome then seen else seen ++ [(b.text, n)]) (past ++ [(n, b)]) := by
  refine ⟨fun entry hentry => ?_, fun t => ?_⟩
  · rcases List.mem_append.1 hentry with hentry | hentry
    · exact h.wellformed entry hentry
    · rwa [List.mem_singleton.1 hentry]
  · rw [List.find?_append, Option.map_or, ← h.first]
    split
    · rename_i hsome
      by_cases ht : b.text = t
      · rw [h.firstLine?_eq hb, ← h.first, ht] at hsome
        exact (Option.or_of_isSome hsome).symm
      · simp [ht]
    · rw [List.find?_append, Option.map_or]
      by_cases ht : b.text = t
      · simp [ht]
      · simp [ht]

/-- The notes of a line go on with what it brings in, and the outcome is the first binding that is not
new. -/
theorem noteBindings_spec {seen : List (List Char × Nat)} {past : List (Nat × Binding)}
    (h : Notes seen past) (n : Nat) {bs : List Binding} (hbs : ∀ b ∈ bs, b.Wellformed) :
    Notes (noteBindings n seen (bs.map Binding.text)).1 (past ++ bs.map (n, ·)) ∧
      ∀ entry, (noteBindings n seen (bs.map Binding.text)).2 = some entry ↔
        ∃ b first, FirstRepeat n past bs b first ∧ entry = (b.text, first) := by
  induction bs generalizing seen past with
  | nil =>
    refine ⟨by simpa [noteBindings] using h, fun entry => ⟨nofun, ?_⟩⟩
    rintro ⟨b, first, hrepeat, -⟩
    cases hrepeat
  | cons b rest ih =>
    obtain ⟨hb, hrest⟩ := List.forall_mem_cons.1 hbs
    have hpast : past ++ (b :: rest).map (n, ·) = (past ++ [(n, b)]) ++ rest.map (n, ·) := by simp
    have hnotes := h.concat hb n
    rw [hpast, List.map_cons, noteBindings, h.find?_text hb]
    rcases hfirst : firstLine? past b with _ | first
    · rw [hfirst] at hnotes
      obtain ⟨hlater, hentry⟩ := ih hnotes hrest
      refine ⟨hlater, fun entry => (hentry entry).trans ?_⟩
      constructor
      · rintro ⟨b', first, hrepeat, rfl⟩
        exact ⟨b', first, .later hfirst hrepeat, rfl⟩
      · rintro ⟨b', first, hrepeat, rfl⟩
        cases hrepeat with
        | here hfound =>
          rw [hfirst] at hfound
          cases hfound
        | later _ hrepeat => exact ⟨b', first, hrepeat, rfl⟩
    · rw [hfirst] at hnotes
      refine ⟨(ih hnotes hrest).1, fun entry => ?_⟩
      constructor
      · rintro ⟨⟩
        exact ⟨b, first, .here hfirst, rfl⟩
      · rintro ⟨b', first', hrepeat, rfl⟩
        cases hrepeat with
        | here hfound =>
          rw [hfirst] at hfound
          rw [Option.some.inj hfound]
          rfl
        | later hnone _ =>
          rw [hfirst] at hnone
          cases hnone

/-! ### The rule -/

/-- The bindings that lines bring in, each with the number of its line, where the first line has number
`n`. -/
def entries : Nat → List Line → List (Nat × Binding)
  | _, [] => []
  | n, line :: rest => (brought line).map (n, ·) ++ entries (n + 1) rest

/-- The report on line `n` of a binding with this text that stands first on another line. -/
def repeatReport (n : Nat) (entry : List Char × Nat) : Report where
  line := n
  description := "Duplicate import of '" ++
    String.ofList (entry.1.map fun c => if c == ':' then '.' else c) ++
    "' (first imported on line " ++ Nat.repr entry.2 ++ ")"

/-- The rule notes what a line brings in, reports what of it is not new, and goes on. -/
theorem repeatedImports_cons (n : Nat) (seen : List (List Char × Nat)) (line : Line)
    (rest : List Line) :
    repeatedImports n seen (line :: rest) =
      ((noteBindings n seen ((brought line).map Binding.text)).2.map (repeatReport n)).toList ++
        repeatedImports (n + 1) (noteBindings n seen ((brought line).map Binding.text)).1 rest := by
  rw [repeatedImports, brought]
  split
  · rfl
  rcases hparse : Import.parse? line with _ | i
  · rfl
  · rw [Option.map_some, Option.getD_some, text_broughtBy hparse]
    dsimp only
    rcases noteBindings n seen (bindings i) with ⟨seen', _ | ⟨t, first⟩⟩
    · rfl
    · rfl

/-- The reports on a line are about the first binding there that is not new after the lines before. -/
theorem mem_repeatedImports_iff {n k : Nat} {seen : List (List Char × Nat)}
    {past : List (Nat × Binding)} (h : Notes seen past) {lines : List Line} {line : Line}
    (hline : lines[k]? = some line) {report : Report} (hreport : report.line = n + k) :
    report ∈ repeatedImports n seen lines ↔
      ∃ b first, FirstRepeat (n + k) (past ++ entries n (lines.take k)) (brought line) b first ∧
        report = repeatReport (n + k) (b.text, first) := by
  induction lines generalizing n k seen past with
  | nil => cases hline
  | cons current rest ih =>
    obtain ⟨hnotes, hentry⟩ := noteBindings_spec h n (wellformed_brought current)
    have hnow : (noteBindings n seen ((brought current).map Binding.text)).2.map (repeatReport n) =
        some report ↔ ∃ b first, FirstRepeat n past (brought current) b first ∧
          report = repeatReport n (b.text, first) := by
      rw [Option.map_eq_some_iff]
      constructor
      · rintro ⟨entry, hsome, rfl⟩
        obtain ⟨b, first, hrepeat, rfl⟩ := (hentry entry).1 hsome
        exact ⟨b, first, hrepeat, rfl⟩
      · rintro ⟨b, first, hrepeat, rfl⟩
        exact ⟨(b.text, first), (hentry _).2 ⟨b, first, hrepeat, rfl⟩, rfl⟩
    rw [repeatedImports_cons, List.mem_append, Option.mem_toList, hnow]
    rcases k with _ | k
    · -- All later reports stand at later lines.
      obtain rfl := Option.some.inj hline
      refine (or_iff_left fun hlater => ?_).trans (by simp [entries])
      have hle := ((lineByLine_repeatedImports (n + 1) _ rest).located hlater).1
      omega
    · have hnot : ¬ ∃ b first, FirstRepeat n past (brought current) b first ∧
          report = repeatReport n (b.text, first) := by
        rintro ⟨b, first, -, rfl⟩
        have hplace : n = n + (k + 1) := hreport
        omega
      have hplace : n + (k + 1) = n + 1 + k := by omega
      rw [hplace] at hreport ⊢
      rw [List.take_succ_cons, entries, ← List.append_assoc, ← ih hnotes hline hreport]
      exact or_iff_right hnot

/-- A line is reported exactly if it brings in a binding like one that an earlier line or an earlier
clause of it has brought in. It is reported once, for the first such binding, with the line on which one
like it was brought in first. -/
theorem reports_duplicateImport (c : Context) {lines : List Line} {k : Nat} {line : Line}
    (hline : lines[k]? = some line) :
    ((∃ report ∈ duplicateImport.reports c lines, report.line = k + 1) ↔
      ∃ before b after, brought line = before ++ b :: after ∧
        ∃ entry ∈ entries 1 (lines.take k) ++ before.map (k + 1, ·), entry.2.Alike b) ∧
    (∀ report ∈ duplicateImport.reports c lines, report.line = k + 1 →
      ∃ b first, FirstRepeat (k + 1) (entries 1 (lines.take k)) (brought line) b first ∧
        report = repeatReport (k + 1) (b.text, first)) ∧
    (duplicateImport.reports c lines).Pairwise (·.line < ·.line) := by
  have hnotes : Notes [] [] := ⟨List.forall_mem_nil _, fun _ => rfl⟩
  have hmem : ∀ report : Report, report.line = k + 1 →
      (report ∈ duplicateImport.reports c lines ↔
        ∃ b first, FirstRepeat (k + 1) (entries 1 (lines.take k)) (brought line) b first ∧
          report = repeatReport (k + 1) (b.text, first)) := by
    intro report hreport
    rw [Nat.add_comm k 1] at hreport ⊢
    exact mem_repeatedImports_iff hnotes hline hreport
  refine ⟨?_, fun report hreport hat => (hmem report hat).1 hreport,
    (lineByLine_repeatedImports 1 [] lines).ascending⟩
  rw [← exists_firstRepeat_iff]
  constructor
  · rintro ⟨report, hreport, hat⟩
    obtain ⟨b, first, hrepeat, -⟩ := (hmem report hat).1 hreport
    exact ⟨b, first, hrepeat⟩
  · rintro ⟨b, first, hrepeat⟩
    exact ⟨repeatReport (k + 1) (b.text, first), (hmem _ rfl).2 ⟨b, first, hrepeat, rfl⟩, rfl⟩

/-- A module that is imported again with others, behind an import of one of its names. -/
theorem reports_duplicateImport_again :
    ∃ report ∈ duplicateImport.reports ⟨Policy.empty, ∅, 5⟩
      ["import os".toList, "from os import path".toList, "import sys, os".toList], report.line = 3 := by
  have hbrought : brought "import sys, os".toList =
      [⟨.python, 0, "sys".toList, none⟩, ⟨.python, 0, "os".toList, none⟩] := by decide +kernel
  have hline : ["import os".toList, "from os import path".toList, "import sys, os".toList][2]? =
      some "import sys, os".toList := rfl
  exact (reports_duplicateImport _ hline).1.2
    ⟨[⟨.python, 0, "sys".toList, none⟩], ⟨.python, 0, "os".toList, none⟩, [], hbrought,
      (1, ⟨.python, 0, "os".toList, none⟩), by decide +kernel, by decide⟩

/-- The number of dots is lost: an import from the package above is reported as a repetition of one from
the package itself, though the two bring in different bindings. -/
theorem reports_duplicateImport_levels :
    brought "from . import a".toList = [⟨.python, 1, [], some "a".toList⟩] ∧
      brought "from .. import a".toList = [⟨.python, 2, [], some "a".toList⟩] ∧
      duplicateImport.reports ⟨Policy.empty, ∅, 5⟩
          ["from . import a".toList, "from .. import a".toList] =
        [⟨2, "Duplicate import of '..a' (first imported on line 1)"⟩] := by
  decide +kernel

end SourceAudit.Rule
