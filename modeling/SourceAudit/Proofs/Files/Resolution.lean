import Mathlib.Data.List.Basic
import SourceAudit.Proofs.Text.Pieces
import SourceAudit.Files.Tree

/-!
# Where paths lead

`FileTree.Leads` says where the steps of a path lead without a bound on links or lengths: a name that
stands for a link goes on where its target leads, and every other name at the entry of that name. What
the lookup of a tree finds is where its steps lead (`leads_of_follow`), and they lead to one place
(`Leads.unique`).

A path without `..` that starts in a directory can only leave it through a symbolic link
(`Leads.inside_or_leaves`). The path alone does not tell: the target of a link may be absolute, may go
up, and may go through other links.
-/

namespace SourceAudit

theorem TreeEntry.directory_ne_link (target : String) : directory ≠ link target := by
  intro h
  cases h

theorem TreeEntry.file_ne_link (bytes : Bytes) (target : String) : file bytes ≠ link target := by
  intro h
  cases h

namespace FileTree

variable {t : FileTree} {loc dest mid base : Location} {steps first second rest : List PathStep}

/-- The place that a path starts from. -/
def origin (t : FileTree) (path : List Char) : Location :=
  if Path.isAbsolute path then [] else t.start

/-- The place that the target of a link in a directory starts from. -/
def linkOrigin (directory : Location) (target : String) : Location :=
  if Path.isAbsolute target.toList then [] else directory

/-- The steps of a path lead from one place to another. -/
inductive Leads (t : FileTree) : Location → List PathStep → Location → Prop
  | arrived (loc : Location) : Leads t loc [] loc
  | stay {loc dest : Location} {rest : List PathStep} (directory : t.entry? loc = some .directory)
      (later : Leads t loc rest dest) : Leads t loc (.stay :: rest) dest
  | slash {loc dest : Location} {rest : List PathStep} (directory : t.entry? loc = some .directory)
      (later : Leads t loc rest dest) : Leads t loc (.slash :: rest) dest
  | up {loc dest : Location} {rest : List PathStep} (directory : t.entry? loc = some .directory)
      (later : Leads t loc.dropLast rest dest) : Leads t loc (.up :: rest) dest
  | enter {loc dest : Location} {rest : List PathStep} {name : String} {entry : TreeEntry}
      (directory : t.entry? loc = some .directory) (there : t.entry? (loc ++ [name]) = some entry)
      (plain : ∀ target, entry ≠ .link target) (later : Leads t (loc ++ [name]) rest dest) :
      Leads t loc (.enter name :: rest) dest
  | link {loc mid dest : Location} {rest : List PathStep} {name target : String}
      (directory : t.entry? loc = some .directory)
      (there : t.entry? (loc ++ [name]) = some (.link target))
      (through : Leads t (linkOrigin loc target) (PathStep.ofPath target.toList) mid)
      (later : Leads t mid rest dest) : Leads t loc (.enter name :: rest) dest

/-- A path leads to a place. -/
def ResolvesTo (t : FileTree) (path : List Char) (loc : Location) : Prop :=
  t.Leads (t.origin path) (PathStep.ofPath path) loc

namespace Leads

/-- Two paths in a row lead where the second one leads from where the first one does. -/
theorem append_iff :
    t.Leads loc (first ++ second) dest ↔ ∃ mid, t.Leads loc first mid ∧ t.Leads mid second dest := by
  constructor
  · intro h
    induction first generalizing loc with
    | nil => exact ⟨loc, .arrived loc, h⟩
    | cons step first ih =>
      cases h with
      | stay directory later =>
        obtain ⟨mid, hfirst, hsecond⟩ := ih later
        exact ⟨mid, .stay directory hfirst, hsecond⟩
      | slash directory later =>
        obtain ⟨mid, hfirst, hsecond⟩ := ih later
        exact ⟨mid, .slash directory hfirst, hsecond⟩
      | up directory later =>
        obtain ⟨mid, hfirst, hsecond⟩ := ih later
        exact ⟨mid, .up directory hfirst, hsecond⟩
      | enter directory there plain later =>
        obtain ⟨mid, hfirst, hsecond⟩ := ih later
        exact ⟨mid, .enter directory there plain hfirst, hsecond⟩
      | link directory there through later =>
        obtain ⟨mid, hfirst, hsecond⟩ := ih later
        exact ⟨mid, .link directory there through hfirst, hsecond⟩
  · rintro ⟨mid, hfirst, hsecond⟩
    induction hfirst with
    | arrived => exact hsecond
    | stay directory _ ih => exact .stay directory (ih hsecond)
    | slash directory _ ih => exact .slash directory (ih hsecond)
    | up directory _ ih => exact .up directory (ih hsecond)
    | enter directory there plain _ ih => exact .enter directory there plain (ih hsecond)
    | link directory there through _ _ ih => exact .link directory there through (ih hsecond)

/-- Steps lead to one place. -/
theorem unique (h : t.Leads loc steps dest) {other : Location} (hother : t.Leads loc steps other) :
    dest = other := by
  induction h generalizing other with
  | arrived =>
    cases hother
    rfl
  | stay _ _ ih => cases hother with | stay _ later => exact ih later
  | slash _ _ ih => cases hother with | slash _ later => exact ih later
  | up _ _ ih => cases hother with | up _ later => exact ih later
  | enter _ there plain _ ih =>
    cases hother with
    | enter _ _ _ later => exact ih later
    | link _ there' _ _ => exact absurd (Option.some.inj (there.symm.trans there')) (plain _)
  | link _ there _ _ ihthrough ihlater =>
    cases hother with
    | enter _ there' plain _ => exact absurd (Option.some.inj (there'.symm.trans there)) (plain _)
    | link _ there' through later =>
      obtain rfl := TreeEntry.link.inj (Option.some.inj (there.symm.trans there'))
      obtain rfl := ihthrough through
      exact ihlater later

/-- A path that leads anywhere starts in a directory. -/
theorem directory_of_ne_nil (h : t.Leads loc steps dest) (hne : steps ≠ []) :
    t.entry? loc = some .directory := by
  cases h with
  | arrived => exact absurd rfl hne
  | stay directory _ | slash directory _ | up directory _ => exact directory
  | enter directory _ _ _ | link directory _ _ _ => exact directory

end Leads

/-! ### The lookup of a tree -/

/-- The lookup goes on from a name that stands for no link. -/
theorem follow_enter {links : Nat} {name : String} {entry : TreeEntry}
    (directory : t.entry? loc = some .directory) (short : name.utf8ByteSize ≤ maxNameSize)
    (there : t.entry? (loc ++ [name]) = some entry) (plain : ∀ target, entry ≠ .link target) :
    t.follow .target links loc (.enter name :: rest) =
      t.follow .target links (loc ++ [name]) rest := by
  rw [follow]
  simp only [directory, there, Nat.not_lt.2 short, ne_eq, not_true_eq_false, reduceCtorEq,
    false_and, if_false]

/-- The lookup goes on from a link with the steps of its target. -/
theorem follow_link {links : Nat} {name target : String}
    (directory : t.entry? loc = some .directory) (short : name.utf8ByteSize ≤ maxNameSize)
    (there : t.entry? (loc ++ [name]) = some (.link target)) :
    t.follow .target (links + 1) loc (.enter name :: rest) =
      t.follow .target links (linkOrigin loc target)
        (PathStep.ofPath target.toList ++ rest) := by
  rw [follow]
  simp only [directory, there, Nat.not_lt.2 short, ne_eq, not_true_eq_false, reduceCtorEq,
    false_and, and_false, if_false, linkOrigin]

theorem follow_up {links : Nat} (directory : t.entry? loc = some .directory) :
    t.follow .target links loc (.up :: rest) = t.follow .target links loc.dropLast rest := by
  rw [follow, if_neg (not_not_intro directory)]

/-- What the lookup of a tree finds is where the steps lead. -/
theorem leads_of_follow {links : Nat} (h : t.follow .target links loc steps = .ok (.found dest)) :
    t.Leads loc steps dest := by
  fun_induction follow t .target links loc steps with
  | case1 =>
    cases h
    exact .arrived _
  | case3 links loc rest hdirectory ih => exact .stay (not_not.1 hdirectory) (ih h)
  | case4 links loc rest hdirectory ih => exact .slash (not_not.1 hdirectory) (ih h)
  | case5 links loc rest hdirectory ih => exact .up (not_not.1 hdirectory) (ih h)
  -- A link is only found itself where the entry is asked for.
  | case10 _ _ _ _ _ _ _ _ _ _ hentry => cases hentry.2
  -- The lookup goes through the target and the rest in one go, the relation one after the other.
  | case12 loc rest hdirectory name next _ _ target hlink _ links base ih =>
    obtain ⟨mid, hthrough, hlater⟩ := Leads.append_iff.1 (ih h)
    exact .link (not_not.1 hdirectory) hlink hthrough hlater
  | case13 links loc rest hdirectory name next _ _ entry hplain hthere ih =>
    exact .enter (not_not.1 hdirectory) hthere (fun target => hplain target) (ih h)
  | _ => simp at h

/-- A path that a lookup accepts is followed from where it starts. -/
theorem locate_eq {purpose : Purpose} {path : List Char} (hnul : '\x00' ∉ path) (hne : path ≠ [])
    (hsize : Text.Utf8.size path ≤ maxPathSize) :
    t.locate purpose path = t.follow purpose maxLinks (t.origin path) (PathStep.ofPath path) := by
  rw [locate, if_neg hnul, if_neg hne, if_neg (Nat.not_lt.2 hsize), origin]

/-- A path that leads anywhere is one that a lookup accepts. -/
theorem accepted_of_locate {purpose : Purpose} {path : List Char} {place : Place}
    (h : t.locate purpose path = .ok place) :
    '\x00' ∉ path ∧ path ≠ [] ∧ Text.Utf8.size path ≤ maxPathSize := by
  rw [locate] at h
  split_ifs at h with hnul hne hsize <;> exact ⟨hnul, hne, Nat.not_lt.1 hsize⟩

/-- What a path is found to lead to is where it leads. -/
theorem resolvesTo_of_locate {path : List Char} (h : t.locate .target path = .ok (.found loc)) :
    path ≠ [] ∧ t.ResolvesTo path loc := by
  obtain ⟨hnul, hne, hsize⟩ := accepted_of_locate h
  rw [locate_eq hnul hne hsize] at h
  exact ⟨hne, leads_of_follow h⟩

/-! ### Paths in a directory -/

/-- The steps for the segments of a path, without the slash at its end. -/
def stepsOfSegments (path : List Char) : List PathStep :=
  (Path.segments path).filterMap PathStep.ofSegment?

/-- The steps of a path from the directory that it is joined to; an empty path asks for the directory
itself. -/
def stepsWithin (path : List Char) : List PathStep :=
  if path = [] then [.slash] else PathStep.ofPath path

theorem ofPath_eq_of_getLast? {path : List Char} (h : path.getLast? ≠ some '/') :
    PathStep.ofPath path = stepsOfSegments path := by
  rw [PathStep.ofPath, if_neg h, List.append_nil, stepsOfSegments]

/-- The steps in front of a slash and those behind it. -/
theorem ofPath_append_slash (front path : List Char) :
    PathStep.ofPath (front ++ '/' :: path) = stepsOfSegments front ++ stepsWithin path := by
  have hsegments :
      Path.segments (front ++ '/' :: path) = Path.segments front ++ Path.segments path :=
    Text.cutFrom_append (beq_self_eq_true '/')
  rw [PathStep.ofPath, hsegments, List.filterMap_append, List.append_assoc, ← stepsOfSegments,
    stepsWithin]
  by_cases hpath : path = []
  · subst hpath
    simp [Path.segments, Text.cut, Text.cutWhere, Text.cutFrom, PathStep.ofSegment?]
  · rw [if_neg hpath, List.getLast?_append_cons, List.getLast?_cons_of_ne_nil hpath,
      PathStep.ofPath]

/-- A path that is not empty has a step: the slash at its end or the name there. -/
theorem ofPath_ne_nil {path : List Char} (hne : path ≠ []) : PathStep.ofPath path ≠ [] := by
  obtain ⟨front, c, rfl⟩ := List.eq_nil_or_concat path |>.resolve_left hne
  rw [List.concat_eq_append]
  by_cases hc : c = '/'
  · simp [PathStep.ofPath, hc]
  -- The last character is in a segment, and a segment that is not empty is a step.
  · have hmem : c ∈ (Path.segments (front ++ [c])).flatten := by
      rw [Path.segments, Text.cut, Text.cutWhere, Text.flatten_cutFrom]
      simp [hc]
    obtain ⟨segment, hsegment, hin⟩ := List.mem_flatten.1 hmem
    have hstep : ∃ step, PathStep.ofSegment? segment = some step := by
      rw [PathStep.ofSegment?, if_neg (List.ne_nil_of_mem hin)]
      split_ifs <;> exact ⟨_, rfl⟩
    obtain ⟨step, hstep⟩ := hstep
    exact List.ne_nil_of_mem
      (List.mem_append_left _ (List.mem_filterMap.2 ⟨segment, hsegment, hstep⟩))

theorem stepsWithin_ne_nil (path : List Char) : stepsWithin path ≠ [] := by
  rw [stepsWithin]
  split_ifs with hpath
  · exact List.cons_ne_nil _ _
  · exact ofPath_ne_nil hpath

/-- What a path starts with says where it starts. -/
theorem origin_append (t : FileTree) {front : List Char} (hne : front ≠ []) (path : List Char) :
    t.origin (front ++ path) = t.origin front := by
  obtain ⟨c, rest, rfl⟩ := List.exists_cons_of_ne_nil hne
  rfl

/-- A path that is joined to another one leads where it leads from the directory that the other one
leads to. Joined to the empty path it starts in the working directory. -/
theorem exists_base_of_join {root path : List Char} (habsolute : Path.isAbsolute path = false)
    (hne : Path.join root path ≠ []) (h : t.ResolvesTo (Path.join root path) loc) :
    ∃ base, t.ResolvesTo root base ∧ t.entry? base = some .directory ∧
      t.Leads base (stepsWithin path) loc := by
  have hrelative : ¬ Path.isAbsolute path = true := by simp [habsolute]
  -- The join puts a slash in between unless the first path is empty or ends in one.
  rcases List.eq_nil_or_concat root with rfl | ⟨front, c, rfl⟩
  · have hjoin : Path.join [] path = path := by simp [Path.join, habsolute]
    rw [hjoin] at hne h
    rw [ResolvesTo, origin, if_neg hrelative] at h
    refine ⟨t.start, .arrived t.start, h.directory_of_ne_nil (ofPath_ne_nil hne), ?_⟩
    rwa [stepsWithin, if_neg hne]
  rw [List.concat_eq_append] at h ⊢
  have hroot : front ++ [c] ≠ [] := by simp
  by_cases hc : c = '/'
  · subst hc
    have hjoin : Path.join (front ++ ['/']) path = front ++ '/' :: path := by
      simp [Path.join, habsolute]
    rw [ResolvesTo, hjoin, ofPath_append_slash, List.append_cons, origin_append t hroot] at h
    obtain ⟨base, hbase, hpath⟩ := Leads.append_iff.1 h
    have hdirectory := hpath.directory_of_ne_nil (stepsWithin_ne_nil path)
    refine ⟨base, ?_, hdirectory, hpath⟩
    rw [ResolvesTo, ofPath_append_slash]
    exact Leads.append_iff.2 ⟨base, hbase, .slash hdirectory (.arrived base)⟩
  · have hjoin : Path.join (front ++ [c]) path = front ++ [c] ++ '/' :: path := by
      simp [Path.join, habsolute, hc]
    rw [ResolvesTo, hjoin, ofPath_append_slash, origin_append t hroot] at h
    obtain ⟨base, hbase, hpath⟩ := Leads.append_iff.1 h
    refine ⟨base, ?_, hpath.directory_of_ne_nil (stepsWithin_ne_nil path), hpath⟩
    rw [ResolvesTo, ofPath_eq_of_getLast? (by simp [hc])]
    exact hbase

/-! ### Ways out of a directory -/

/-- A path goes through a link below a directory that leads out of it. -/
inductive Leaves (t : FileTree) (base : Location) : Location → List PathStep → Prop
  | through {loc directory out : Location} {way rest : List PathStep} {name target : String}
      (there : t.Leads loc way directory) (inside : base <+: directory)
      (link : t.entry? (directory ++ [name]) = some (.link target))
      (leads : t.Leads directory [.enter name] out) (outside : ¬ base <+: out) :
      Leaves t base loc (way ++ .enter name :: rest)

/-- A path that goes on with one that leaves a directory leaves it. -/
theorem Leaves.after (h : t.Leaves base mid rest) (hfirst : t.Leads loc first mid) :
    t.Leaves base loc (first ++ rest) := by
  obtain ⟨there, inside, link, leads, outside⟩ := h
  rw [← List.append_assoc]
  exact .through (Leads.append_iff.2 ⟨mid, hfirst, there⟩) inside link leads outside

/-- A path without `..` ends where it starts or below, unless it goes through a link that leads out
of there. -/
theorem Leads.inside_or_leaves (h : t.Leads loc steps dest) (hup : .up ∉ steps)
    (hbase : base <+: loc) : base <+: dest ∨ t.Leaves base loc steps := by
  induction h with
  | arrived => exact .inl hbase
  | stay directory _ ih =>
    refine (ih (List.not_mem_of_not_mem_cons hup) hbase).imp_right fun hout => ?_
    exact hout.after (.stay directory (.arrived _))
  | slash directory _ ih =>
    refine (ih (List.not_mem_of_not_mem_cons hup) hbase).imp_right fun hout => ?_
    exact hout.after (.slash directory (.arrived _))
  | up => exact absurd List.mem_cons_self hup
  | @enter loc dest rest name entry directory there plain _ ih =>
    -- A name that stands for no link leads further down.
    have hnext : base <+: loc ++ [name] := hbase.trans (List.prefix_append loc [name])
    refine (ih (List.not_mem_of_not_mem_cons hup) hnext).imp_right fun hout => ?_
    exact hout.after (.enter directory there plain (.arrived _))
  -- The target is followed to its end: only then is it known whether the link leads out.
  | @link loc mid dest rest name target directory there through _ _ ih =>
    have hlink : t.Leads loc [.enter name] mid := .link directory there through (.arrived mid)
    by_cases hmid : base <+: mid
    · exact (ih (List.not_mem_of_not_mem_cons hup) hmid).imp_right fun hout => hout.after hlink
    · exact .inr (.through (.arrived loc) hbase there hlink hmid)

end FileTree

end SourceAudit
