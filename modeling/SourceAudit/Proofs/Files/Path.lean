import SourceAudit.Proofs.Text.Pieces
import SourceAudit.Store.Gateway

/-!
# File names of paths

The file name of a path is its last segment, so a path whose extension was replaced has the stem of
the name with the new extension (`fileName?_withExtension`).
-/

namespace SourceAudit

namespace Path

open Text

variable {path name ext : List Char}

/-- The file name is read from the parts. -/
theorem fileName?_congr {other : List Char} (h : parts path = parts other) :
    fileName? path = fileName? other := by
  rw [fileName?, fileName?, h]

/-- A file name is a segment. -/
theorem mem_segments_of_fileName? (h : fileName? path = some name) : name ∈ segments path := by
  have hlast : .name name ∈ parts path := by
    rw [fileName?] at h
    split at h
    next s hs => exact List.mem_of_getLast? (Option.some.inj h ▸ hs)
    next => cases h
  rw [parts] at hlast
  rcases List.mem_append.1 hlast with hfront | hname
  · split at hfront
    · simp at hfront
    · split at hfront <;> simp at hfront
  · obtain ⟨s, hs, hpart⟩ := List.mem_filterMap.1 hname
    rw [Part.ofSegment?] at hpart
    split at hpart
    · cases hpart
    · split at hpart <;> cases hpart
      exact hs

/-- There is no slash in a file name. -/
theorem not_mem_of_fileName? (h : fileName? path = some name) : '/' ∉ name :=
  fun hmem => (mem_of_mem_cut (mem_segments_of_fileName? h) hmem).2 rfl

/-- The file name is the last segment if that is a name. -/
theorem fileName?_of_getLast? (hlast : (segments path).getLast? = some name)
    (hname : Part.ofSegment? name = some (.name name)) : fileName? path = some name := by
  obtain ⟨front, hsegments⟩ := List.getLast?_eq_some_iff.1 hlast
  have hparts : (parts path).getLast? = some (.name name) := by
    rw [parts, hsegments, List.filterMap_append, List.filterMap_cons, hname]
    simp
  rw [fileName?, hparts]

/-- The stem of a name is its first part. -/
theorem stem_isPrefix (name : List Char) : stem name <+: name := by
  rw [stem]
  split
  · exact List.prefix_rfl
  · exact (List.dropLast_prefix _).trans <| dropEndWhile_prefix _ name

/-- A path with a new extension has the stem of its file name with that extension. -/
theorem fileName?_withExtension (h : fileName? path = some name) (hslash : '/' ∉ ext)
    (hname : Part.ofSegment? (stem name ++ '.' :: ext) = some (.name (stem name ++ '.' :: ext))) :
    fileName? (withExtension path ext) = some (stem name ++ '.' :: ext) := by
  have hstem : '/' ∉ stem name ++ '.' :: ext := by
    intro hmem
    rcases List.mem_append.1 hmem with hmem | hmem
    · exact not_mem_of_fileName? h ((stem_isPrefix name).subset hmem)
    · rcases List.mem_cons.1 hmem with hmem | hmem
      · exact absurd hmem (by decide)
      · exact hslash hmem
  refine fileName?_of_getLast? ?_ hname
  rw [withExtension, h]
  dsimp only
  rcases dropEndWhile_eq_nil_or (· != '/') (trimEnd path) with hnil | ⟨directory, c, hdir, hc⟩
  · rw [hnil, List.nil_append, segments, cut_eq_singleton hstem]
    rfl
  · obtain rfl : c = '/' := by simpa using hc
    rw [hdir, List.append_assoc, List.append_assoc, segments]
    exact getLast?_cut hstem

/-- The stem of a name is what stands in front of its last dot. -/
theorem stem_append (hne : name ≠ []) (hdot : '.' ∉ ext) : stem (name ++ '.' :: ext) = name := by
  have hsplit : name ++ '.' :: ext = (name ++ ['.']) ++ ext := by simp
  have hupTo : dropEndWhile (· != '.') (name ++ '.' :: ext) = name ++ ['.'] := by
    have hext : ∀ c ∈ ext, (c != '.') = true :=
      fun c hc => bne_iff_ne.2 fun heq => hdot (heq ▸ hc)
    rw [hsplit, dropEndWhile_append hext, dropEndWhile_concat (by decide)]
  have hlength : ¬ (name ++ ['.']).length ≤ 1 := by
    have := List.length_pos_iff.2 hne
    simp
    omega
  rw [stem, hupTo, if_neg hlength, List.dropLast_concat]

end Path

namespace StoreFile

open SourceAudit.Path

/-- A new document is written to a file of another name than the one it is moved to. -/
theorem parts_temporaryPath_ne {path : String} (h : (fileName? path.toList).isSome) :
    parts (temporaryPath path).toList ≠ parts path.toList := by
  obtain ⟨name, hname⟩ := Option.isSome_iff_exists.1 h
  have hjson : "json.tmp".toList = "json".toList ++ '.' :: "tmp".toList := by decide
  generalize hnew : stem name ++ '.' :: "json.tmp".toList = new
  have hlength : 9 ≤ new.length := by
    rw [← hnew, List.length_append]
    exact Nat.le_add_left _ _
  have hpart : Part.ofSegment? new = some (.name new) := by
    rw [Part.ofSegment?, if_neg, if_neg]
    · rintro rfl
      exact absurd hlength (by decide)
    · rintro (rfl | rfl) <;> exact absurd hlength (by decide)
  have htemporary : fileName? (temporaryPath path).toList = some new := by
    rw [temporaryPath, String.toList_ofList, ← hnew]
    exact fileName?_withExtension hname (by decide) (hnew.symm ▸ hpart)
  intro hparts
  -- The stem of the name would be longer than itself.
  rw [fileName?_congr hparts, hname] at htemporary
  obtain rfl := Option.some.inj htemporary
  have hstem : stem name = stem name ++ '.' :: "json".toList := by
    conv => lhs; rw [← hnew, hjson, ← List.cons_append, ← List.append_assoc]
    exact stem_append (by simp) (by decide)
  simpa using congrArg List.length hstem

end StoreFile

end SourceAudit
