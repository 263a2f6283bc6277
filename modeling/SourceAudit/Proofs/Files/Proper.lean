import Mathlib.Data.List.Nodup
import SourceAudit.Proofs.Files.Resolution
import SourceAudit.Proofs.Url.Path

/-!
# Trees of a file system

`FileTree.IsProper` says what a file system sees to: there is one entry at a place, and its name can
stand in a path. In such a tree an entry of a directory is found under its name behind any path of the
directory (`follow_concat_enter`), links on the way or not, since a lookup that has come to a place goes
on from there alike with whatever steps come next (`exists_follow_append`).

Where there are no links, a place is told by the names on the way to it (`Leads.eq_append_entered`).
-/

namespace SourceAudit.FileTree

variable {t : FileTree} {loc dest base : Location} {name : String} {entry : TreeEntry}
  {second steps : List PathStep}

/-- The name of an entry: it is one of a path, has no NUL in it and is not too long. -/
structure IsEntryName (name : String) : Prop extends Url.IsName name.toList where
  nul : '\x00' ∉ name.toList
  short : name.utf8ByteSize ≤ maxNameSize

instance (name : String) : Decidable (IsEntryName name) :=
  decidable_of_iff (_ ∧ _ ∧ _) ⟨fun h => ⟨h.1, h.2.1, h.2.2⟩, fun h => ⟨h.toIsName, h.nul, h.short⟩⟩

/-- There is at most one entry at a place, and the entries have names. -/
structure IsProper (t : FileTree) : Prop where
  once : (t.entries.map (·.1)).Nodup
  named : ∀ e ∈ t.entries, ∀ name ∈ e.1, IsEntryName name

instance (t : FileTree) : Decidable t.IsProper :=
  decidable_of_iff (_ ∧ _) ⟨fun h => ⟨h.1, h.2⟩, fun h => ⟨h.once, h.named⟩⟩

/-! ### Entries -/

/-- What a proper tree holds at a place is found there. -/
theorem IsProper.entry?_eq (h : t.IsProper) (hmem : (loc, entry) ∈ t.entries) (hloc : loc ≠ []) :
    t.entry? loc = some entry := by
  have hthere : (t.entries.find? fun e => e.1 == loc).isSome :=
    List.find?_isSome.2 ⟨(loc, entry), hmem, beq_self_eq_true loc⟩
  obtain ⟨found, hfound⟩ := Option.isSome_iff_exists.1 hthere
  -- There is no other entry at the place.
  have hsame : found = (loc, entry) :=
    List.inj_on_of_nodup_map h.once (List.mem_of_find?_eq_some hfound) hmem
      (by simpa using List.find?_some hfound)
  rw [FileTree.entry?, if_neg hloc, hfound, hsame]
  rfl

/-- The name of an entry in a directory. -/
theorem IsProper.isEntryName (h : t.IsProper) (hmem : (loc ++ [name], entry) ∈ t.entries) :
    IsEntryName name :=
  h.named _ hmem name (List.mem_append_right _ (List.mem_singleton_self name))

/-- What is found at a place has names on the way to it. -/
theorem IsProper.isEntryName_of_entry? (h : t.IsProper) (hthere : t.entry? loc = some entry) :
    ∀ name ∈ loc, IsEntryName name := by
  rw [FileTree.entry?] at hthere
  split_ifs at hthere with hloc
  · intro name hname
    rw [hloc] at hname
    cases hname
  · obtain ⟨e, hfound, -⟩ := Option.map_eq_some_iff.1 hthere
    have hplace : e.1 = loc := by simpa using List.find?_some hfound
    exact hplace ▸ h.named e (List.mem_of_find?_eq_some hfound)

/-- An entry in a directory is found there. -/
theorem IsProper.entry?_concat (h : t.IsProper) (hmem : (loc ++ [name], entry) ∈ t.entries) :
    t.entry? (loc ++ [name]) = some entry :=
  h.entry?_eq hmem (List.append_ne_nil_of_right_ne_nil loc (List.cons_ne_nil name []))

/-! ### Lookups that go on -/

/-- A lookup that comes to its end has come to a place on its way from which it goes on alike with
whatever steps. -/
theorem exists_follow_append {links : Nat} (first : List PathStep)
    (h : t.follow .target links loc (first ++ second) = .ok (.found dest)) :
    ∃ links' mid, ∀ rest,
      t.follow .target links loc (first ++ rest) = t.follow .target links' mid rest := by
  generalize hsteps : first ++ second = all at h
  fun_induction follow t .target links loc all generalizing first with
  | case1 =>
    obtain ⟨rfl, -⟩ := List.append_eq_nil_iff.1 hsteps
    exact ⟨_, _, fun _ => rfl⟩
  -- What comes after a step does not change where the step leads.
  | case3 links loc later hdirectory ih | case4 links loc later hdirectory ih
  | case5 links loc later hdirectory ih =>
    rcases List.append_eq_cons_iff.1 hsteps with ⟨rfl, -⟩ | ⟨first, rfl, hlater⟩
    · exact ⟨_, _, fun _ => rfl⟩
    · obtain ⟨links', mid, hgo⟩ := ih first hlater.symm h
      refine ⟨links', mid, fun rest => ?_⟩
      rw [List.cons_append, follow, if_neg hdirectory]
      exact hgo rest
  -- A link is only found itself where the entry is asked for.
  | case10 _ _ _ _ _ _ _ _ _ _ hentry => cases hentry.2
  | case12 loc later hdirectory name next _ hshort target hlink _ links linkBase ih =>
    rcases List.append_eq_cons_iff.1 hsteps with ⟨rfl, -⟩ | ⟨first, rfl, hlater⟩
    · exact ⟨_, _, fun _ => rfl⟩
    · have hthrough : PathStep.ofPath target.toList ++ first ++ second =
          PathStep.ofPath target.toList ++ later := by rw [hlater, List.append_assoc]
      obtain ⟨links', mid, hgo⟩ := ih _ hthrough h
      refine ⟨links', mid, fun rest => ?_⟩
      rw [List.cons_append, follow_link (not_not.1 hdirectory) (Nat.not_lt.1 hshort) hlink,
        ← List.append_assoc]
      exact hgo rest
  | case13 links loc later hdirectory name next _ hshort held hplain hthere ih =>
    rcases List.append_eq_cons_iff.1 hsteps with ⟨rfl, -⟩ | ⟨first, rfl, hlater⟩
    · exact ⟨_, _, fun _ => rfl⟩
    · obtain ⟨links', mid, hgo⟩ := ih first hlater.symm h
      refine ⟨links', mid, fun rest => ?_⟩
      rw [List.cons_append, follow_enter (not_not.1 hdirectory) (Nat.not_lt.1 hshort) hthere
        fun target => hplain target]
      exact hgo rest
  | _ => simp at h

/-- A lookup that comes to a directory, by a slash at the end or without one, goes on to its entries. -/
theorem follow_concat_enter {links : Nat} {first : List PathStep}
    (h : t.follow .target links loc (first ++ second) = .ok (.found base))
    (hsecond : second = [] ∨ second = [.slash]) (hdirectory : t.entry? base = some .directory)
    (hshort : name.utf8ByteSize ≤ maxNameSize) (hthere : t.entry? (base ++ [name]) = some entry)
    (hplain : ∀ target, entry ≠ .link target) :
    t.follow .target links loc (first ++ [.enter name]) = .ok (.found (base ++ [name])) := by
  obtain ⟨links', mid, hgo⟩ := exists_follow_append first h
  have hmid : mid = base := by
    rw [hgo] at h
    rcases hsecond with rfl | rfl
    · simpa [follow] using h
    · have hstart := (leads_of_follow h).directory_of_ne_nil (List.cons_ne_nil _ _)
      simpa [follow, hstart] using h
  rw [hgo, hmid, follow_enter hdirectory hshort hthere hplain, follow]

/-! ### Names behind a path -/

/-- A name has one step. -/
theorem ofPath_name {name : List Char} (h : Url.IsName name) :
    PathStep.ofPath name = [.enter (String.ofList name)] := by
  rw [ofPath_eq_of_getLast? h.getLast?_ne, stepsOfSegments, Path.segments, Text.cut_eq_singleton h.slash]
  simp [PathStep.ofSegment?, h.ne_nil, h.dot, h.dots]

/-- Whether a path is absolute shows at its start. -/
theorem isAbsolute_append {path : List Char} (hne : path ≠ []) (more : List Char) :
    Path.isAbsolute (path ++ more) = Path.isAbsolute path := by
  rw [Path.isAbsolute, List.head?_append_of_ne_nil path hne, Path.isAbsolute]

/-- What is behind a path stays there where the path is joined to another one. -/
theorem join_append (front : List Char) {path : List Char} (hne : path ≠ []) (more : List Char) :
    Path.join front (path ++ more) = Path.join front path ++ more := by
  rw [Path.join, isAbsolute_append hne, Path.join]
  split_ifs <;> simp

theorem join_ne_nil (front : List Char) {path : List Char} (hne : path ≠ []) :
    Path.join front path ≠ [] := by
  rw [Path.join]
  split_ifs <;> simp [hne]

/-- A path ends as it does where it is joined to another one. -/
theorem getLast?_join (front : List Char) {path : List Char} (hne : path ≠ []) :
    (Path.join front path).getLast? = path.getLast? := by
  rw [Path.join]
  split_ifs
  · rfl
  · exact List.getLast?_append_of_ne_nil front hne
  · rw [List.getLast?_append_cons, List.getLast?_cons_of_ne_nil hne]

/-- A name is no absolute path. -/
theorem isAbsolute_of_isName {name : List Char} (h : Url.IsName name) :
    Path.isAbsolute name = false := by
  refine eq_false_of_ne_true fun habsolute => ?_
  rw [Path.isAbsolute, beq_iff_eq] at habsolute
  exact h.slash (List.mem_of_head? habsolute)

/-- A name behind a path is put at its end, after a slash if there is none. -/
theorem join_name_eq {path name : List Char} (hpath : path ≠ []) (hname : Url.IsName name) :
    Path.join path name = if path.getLast? = some '/' then path ++ name else path ++ '/' :: name := by
  rw [Path.join, isAbsolute_of_isName hname, if_neg Bool.false_ne_true]
  simp only [hpath, false_or]

/-- A name behind a path is one more step, but for a slash at the end of the path. -/
theorem exists_steps_join {path name : List Char} (hpath : path ≠ []) (hname : Url.IsName name) :
    ∃ first second, PathStep.ofPath path = first ++ second ∧
      (second = [] ∨ second = [.slash]) ∧
      PathStep.ofPath (Path.join path name) = first ++ [.enter (String.ofList name)] := by
  have hwithin : stepsWithin name = [.enter (String.ofList name)] := by
    rw [stepsWithin, if_neg hname.ne_nil, ofPath_name hname]
  rw [join_name_eq hpath hname]
  by_cases hlast : path.getLast? = some '/'
  · obtain ⟨front, rfl⟩ := List.getLast?_eq_some_iff.1 hlast
    refine ⟨stepsOfSegments front, [.slash], ofPath_append_slash front [], .inr rfl, ?_⟩
    rw [if_pos hlast, List.append_assoc, List.singleton_append, ofPath_append_slash, hwithin]
  · refine ⟨stepsOfSegments path, [], ?_, .inl rfl, ?_⟩
    · rw [ofPath_eq_of_getLast? hlast, List.append_nil]
    · rw [if_neg hlast, ofPath_append_slash, hwithin]

/-- A path with a name behind it starts where the path does. -/
theorem origin_join_name (t : FileTree) {path name : List Char} (hpath : path ≠ [])
    (hname : Url.IsName name) : t.origin (Path.join path name) = t.origin path := by
  rw [join_name_eq hpath hname]
  split_ifs <;> exact origin_append t hpath _

/-- The path of a directory with the name of an entry behind it leads to the entry. -/
theorem ResolvesTo.join_name {path : List Char} (h : t.ResolvesTo path base) (hpath : path ≠ [])
    (hdirectory : t.entry? base = some .directory) (hname : Url.IsName name.toList)
    (hthere : t.entry? (base ++ [name]) = some entry) (hplain : ∀ target, entry ≠ .link target) :
    t.ResolvesTo (Path.join path name.toList) (base ++ [name]) := by
  obtain ⟨first, second, hsteps, hsecond, hjoin⟩ := exists_steps_join hpath hname
  rw [ResolvesTo, hsteps] at h
  obtain ⟨mid, hfirst, hlast⟩ := Leads.append_iff.1 h
  have hmid : mid = base := by
    rcases hsecond with rfl | rfl
    · exact (Leads.arrived mid).unique hlast
    · exact (Leads.slash (hlast.directory_of_ne_nil (List.cons_ne_nil _ _)) (.arrived mid)).unique
        hlast
  subst hmid
  rw [ResolvesTo, origin_join_name t hpath hname, hjoin, String.ofList_toList]
  exact Leads.append_iff.2 ⟨mid, hfirst, .enter hdirectory hthere hplain (.arrived _)⟩

/-- The path of a directory with the name of an entry behind it is found to lead to the entry, unless it
is too long then. -/
theorem locate_join_name {path : List Char} (h : t.locate .target path = .ok (.found base))
    (hdirectory : t.entry? base = some .directory) (hname : IsEntryName name)
    (hthere : t.entry? (base ++ [name]) = some entry) (hplain : ∀ target, entry ≠ .link target)
    (hsize : Text.Utf8.size (Path.join path name.toList) ≤ maxPathSize) :
    t.locate .target (Path.join path name.toList) = .ok (.found (base ++ [name])) := by
  obtain ⟨hnul, hpath, hlong⟩ := accepted_of_locate h
  obtain ⟨first, second, hsteps, hsecond, hjoin⟩ := exists_steps_join hpath hname.toIsName
  have hjoined := join_name_eq hpath hname.toIsName
  have hnul' : '\x00' ∉ Path.join path name.toList := by
    rw [hjoined]
    split_ifs <;> simp [hnul, hname.nul]
  have hne : Path.join path name.toList ≠ [] := by
    rw [hjoined]
    split_ifs <;> simp [hpath]
  rw [locate_eq hnul hpath hlong, hsteps] at h
  rw [locate_eq hnul' hne hsize, origin_join_name t hpath hname.toIsName, hjoin,
    String.ofList_toList]
  exact follow_concat_enter h hsecond hdirectory hname.short hthere hplain

/-! ### Places without links -/

/-- The names of entries in steps. -/
def entered (steps : List PathStep) : List String :=
  steps.filterMap fun
    | .enter name => some name
    | _ => none

/-- Where there are no links, steps that do not go up lead to the place that the names of entries in
them make. -/
theorem Leads.eq_append_entered (h : t.Leads loc steps dest) (hup : .up ∉ steps)
    (hplain : ∀ place, loc <+: place → ∀ target, t.entry? place ≠ some (.link target)) :
    dest = loc ++ entered steps := by
  induction h with
  | arrived loc => exact (List.append_nil loc).symm
  | stay _ _ ih | slash _ _ ih => exact ih (List.not_mem_of_not_mem_cons hup) hplain
  | up => exact absurd List.mem_cons_self hup
  | @enter loc dest rest name entry _ _ _ _ ih =>
    have hbelow : ∀ place, loc ++ [name] <+: place → ∀ target,
        t.entry? place ≠ some (.link target) := fun place hplace =>
      hplain place ((List.prefix_append loc [name]).trans hplace)
    rw [ih (List.not_mem_of_not_mem_cons hup) hbelow, List.append_assoc]
    rfl
  | link _ there => exact absurd there (hplain _ (List.prefix_append _ _) _)

end SourceAudit.FileTree
