import SourceAudit.Line.Import
import SourceAudit.Proofs.Pattern.Extent
import SourceAudit.Proofs.Text.Control
import SourceAudit.Proofs.Text.Pieces

/-!
# The modules of an import

The module paths of a Python import are made of path characters (`isPathChar_of_mem_modules`), so they
are free of control characters (`isControl_of_mem_modules`); what stands in quotes in JavaScript may
be anything but a quote. The top-level packages of an import are parts of its module paths, so none of
them has a quote (`quote_notMem_topLevels`).
-/

namespace SourceAudit.Import

open Pattern

/-- Path characters are no control characters. -/
theorem isControl_of_isPathChar {c : Char} (h : isPathChar c = true) : Text.isControl c = false := by
  rcases Bool.or_eq_true_iff.1 h with h | h
  · exact Text.isControl_of_isWord h
  · rw [eq_of_beq h]
    decide

/-- The module of `from a import b` is made of path characters. -/
theorem bodies_pythonFrom : ∀ body ∈ pythonFrom.bodies 2,
    body.Takes fun c => isPathChar c = true := by
  intro body hbody
  obtain rfl := List.mem_singleton.1 hbody
  exact fun c hc => hc

/-- What the clauses of a plain import are made of: path characters, white space and commas. -/
def isClauseChar (c : Char) : Bool :=
  Text.isBlank c || c == ',' || isPathChar c

theorem within_isBlank : Within (fun c => isClauseChar c = true) Text.isBlank := by
  intro c hc
  rw [isClauseChar, hc, Bool.true_or, Bool.true_or]

theorem within_isPathChar : Within (fun c => isClauseChar c = true) isPathChar := by
  intro c hc
  rw [isClauseChar, hc, Bool.or_true]

theorem within_isWord : Within (fun c => isClauseChar c = true) Text.isWord := fun c hc =>
  within_isPathChar c (Bool.or_eq_true_iff.2 (.inl hc))

/-- The clauses of `import a, b as c` are made of such characters. -/
theorem bodies_pythonImport : ∀ body ∈ pythonImport.bodies 1,
    body.Takes fun c => isClauseChar c = true := by
  have has : ∀ c ∈ "as".toList, isClauseChar c = true := by decide
  have hcomma : isClauseChar ',' = true := by decide
  intro body hbody
  obtain rfl := List.mem_singleton.1 hbody
  simp [asClause, space, word, within_isBlank, within_isWord, within_isPathChar, has, hcomma]

/-- A JavaScript module is written without quotes. -/
theorem bodies_quotedModule : ∀ body ∈ quotedModule.bodies 1, body.Takes fun c => c ≠ '\'' := by
  intro body hbody
  obtain rfl := List.mem_singleton.1 hbody
  have hquote : Within (fun c => c ≠ '\'') fun c => !isModuleQuote c := by
    rintro c hc rfl
    revert hc
    decide
  exact ⟨hquote, hquote⟩

/-- The module paths of a Python import are made of path characters. -/
theorem isPathChar_of_mem_modules {line : List Char} {i : Import} (h : parse? line = some i)
    (hpython : i.dialect = .python) : ∀ m ∈ i.modules, ∀ c ∈ m, isPathChar c = true := by
  rw [parse?] at h
  -- A JavaScript import, a `from` import, a plain import and a `require`, in this order.
  split at h
  · obtain rfl := Option.some.inj h
    cases hpython
  split at h
  · rename_i f hfind
    obtain rfl := Option.some.inj h
    intro m hm
    dsimp only at hm
    split at hm
    · cases hm
    · rw [List.mem_singleton.1 hm]
      exact (reads_of_find? hfind).forall_group bodies_pythonFrom
  split at h
  · rename_i f hfind
    obtain rfl := Option.some.inj h
    intro m hm c hc
    obtain ⟨clause, hclause, hhead⟩ := List.mem_filterMap.1 hm
    -- A module is the first word of a clause, so it has no white space and no comma.
    obtain ⟨hin, hblank⟩ := Text.mem_of_mem_words (List.mem_of_head? hhead) hc
    obtain ⟨hgroup, hcomma⟩ := Text.mem_of_mem_cut hclause hin
    have hclause := (reads_of_find? hfind).forall_group bodies_pythonImport c hgroup
    rwa [isClauseChar, hblank, beq_false_of_ne hcomma, Bool.or_self, Bool.false_or] at hclause
  · obtain ⟨f, -, rfl⟩ := Option.map_eq_some_iff.1 h
    cases hpython

/-- The module paths of a Python import are free of control characters. -/
theorem isControl_of_mem_modules {line : List Char} {i : Import} (h : parse? line = some i)
    (hpython : i.dialect = .python) : ∀ m ∈ i.modules, ∀ c ∈ m, Text.isControl c = false :=
  fun m hm c hc => isControl_of_isPathChar (isPathChar_of_mem_modules h hpython m hm c hc)

/-- What is put together of new items has come from the items. -/
theorem mem_of_mem_foldl_addNew {t : List Char} {items seen : List (List Char)}
    (h : t ∈ items.foldl addNew seen) : t ∈ seen ∨ t ∈ items := by
  induction items generalizing seen with
  | nil => exact .inl h
  | cons item rest ih =>
    rcases ih h with h | h
    · rw [addNew] at h
      split at h
      · exact .inl h
      · rcases List.mem_append.1 h with h | h
        · exact .inl h
        · exact .inr (List.mem_cons.2 (.inl (List.mem_singleton.1 h)))
    · exact .inr (List.mem_cons_of_mem item h)

/-- The top-level packages of a Python import are free of control characters. -/
theorem isControl_of_mem_topLevels {line : List Char} {i : Import} (h : parse? line = some i)
    (hpython : i.dialect = .python) : ∀ t ∈ i.topLevels, ∀ c ∈ t, Text.isControl c = false := by
  intro t ht c hc
  rcases mem_of_mem_foldl_addNew ht with ht | ht
  · cases ht
  · obtain ⟨m, hm, rfl⟩ := List.mem_map.1 ht
    rw [hpython] at hc
    exact isControl_of_mem_modules h hpython m hm c (List.takeWhile_subset _ hc)

/-- No module path has a quote. -/
theorem quote_notMem_modules {line : List Char} {i : Import} (h : parse? line = some i) :
    ∀ m ∈ i.modules, '\'' ∉ m := by
  intro m hm hquote
  rcases hdialect : i.dialect
  · exact absurd (isPathChar_of_mem_modules h hdialect m hm _ hquote) (by decide)
  -- In JavaScript there is one module, and it stands in quotes.
  rw [parse?] at h
  split at h
  · rename_i f hfind
    obtain rfl := Option.some.inj h
    obtain rfl := List.mem_singleton.1 hm
    exact (reads_of_find? hfind).forall_group bodies_quotedModule _ hquote rfl
  split at h
  · obtain rfl := Option.some.inj h
    cases hdialect
  split at h
  · obtain rfl := Option.some.inj h
    cases hdialect
  · obtain ⟨f, hfind, rfl⟩ := Option.map_eq_some_iff.1 h
    obtain rfl := List.mem_singleton.1 hm
    exact (reads_of_find? hfind).forall_group bodies_quotedModule _ hquote rfl

/-- The characters of a top-level package are some of the module path, or a slash. -/
theorem mem_of_mem_topLevel {dialect : Dialect} {module : List Char} {c : Char}
    (hc : c ∈ topLevel dialect module) : c ∈ module ∨ c = '/' := by
  have hpiece : ∀ piece ∈ Text.cut '/' module, c ∈ piece → c ∈ module ∨ c = '/' :=
    fun piece hpiece hc => .inl (Text.mem_of_mem_cut hpiece hc).1
  unfold topLevel at hc
  split at hc
  · exact .inl (List.takeWhile_subset _ hc)
  split at hc
  · rename_i scope name rest hcut
    rw [hcut] at hpiece
    split at hc
    · rcases List.mem_append.1 hc with hc | hc
      · exact hpiece scope (by simp) hc
      · rcases List.mem_cons.1 hc with rfl | hc
        · exact .inr rfl
        · exact hpiece name (by simp) hc
    · exact hpiece scope (by simp) hc
  · rename_i first hcut
    exact hpiece first (by simp [hcut]) hc
  · exact .inl hc

/-- No top-level package has a quote. -/
theorem quote_notMem_topLevels {line : List Char} {i : Import} (h : parse? line = some i) :
    ∀ t ∈ i.topLevels, '\'' ∉ t := by
  intro t ht hquote
  rcases mem_of_mem_foldl_addNew ht with ht | ht
  · cases ht
  · obtain ⟨m, hm, rfl⟩ := List.mem_map.1 ht
    rcases mem_of_mem_topLevel hquote with hquote | hslash
    · exact quote_notMem_modules h m hm hquote
    · exact absurd hslash (by decide)

end SourceAudit.Import
