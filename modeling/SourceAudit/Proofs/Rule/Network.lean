import Mathlib.Algebra.Group.Nat.Defs
import SourceAudit.Proofs.Pattern.Matching
import SourceAudit.Proofs.Rule.Reports
import SourceAudit.Rule.Network

/-!
# Network calls and the lines after them

The rule on network calls looks for a sign of error handling on the line of the call and in a window
of lines behind it. A line is reported exactly if there is a call and no such sign (`Unhandled`), so
nothing counts but the line and its window, and a longer window leaves fewer reports
(`hits_missingErrorHandling`).

The ends of the window are cut to the number of lines. In machine words the sums before the cut do not
overflow, and the cut is never wrong (`window?_eq`): the window is that of the rule, which takes lines
as long as there are any.
-/

namespace SourceAudit

/-- A text has at least one character for each of its lines. -/
theorem Text.length_lines_le (s : List Char) : (lines s).length ≤ s.length := by
  -- A begun line has a character already.
  have hfrom : ∀ s read : List Char, (linesFrom read s).length ≤ read.length + s.length := by
    intro s
    induction s with
    | nil =>
      intro read
      rw [linesFrom]
      split
      · exact Nat.zero_le _
      · rename_i hread
        exact List.length_pos_iff.2 (mt List.isEmpty_iff.2 hread)
    | cons c rest ih =>
      intro read
      rw [linesFrom]
      split
      · have hrest := ih []
        simp only [List.length_cons, List.length_nil] at hrest ⊢
        omega
      · have hrest := ih (c :: read)
        simp only [List.length_cons] at hrest ⊢
        omega
  exact Nat.le_trans (hfrom s []) (by simp)

namespace Rule

open Pattern
open Text (Line)

/-! ### Windows in machine words -/

/-- The number, if it fits into a machine word. -/
def word? (n : Nat) : Option Nat :=
  if n < 2 ^ 64 then some n else none

/-- The lines from one place up to another, if these are places of the list in order. -/
def slice? (lines : List Line) (first last : Nat) : Option (List Line) :=
  if first ≤ last ∧ last ≤ lines.length then some ((lines.take last).drop first) else none

/-- The lines behind a line, at most `count` of them, if the arithmetic stays within machine words and
the window within the lines. -/
def window? (lines : List Line) (index count : Nat) : Option (List Line) := do
  let first := min (← word? (index + 1)) lines.length
  let last := min (← word? (first + count)) lines.length
  slice? lines first last

/-- The window of a line is never lost. A text has fewer than `2 ^ 63` lines, since it is held in
memory. -/
theorem window?_eq {lines : List Line} {index count : Nat} (hlines : lines.length < 2 ^ 63)
    (hindex : index < lines.length) (hcount : count < 2 ^ 63) :
    window? lines index count = some ((lines.drop (index + 1)).take count) := by
  have hfirst : word? (index + 1) = some (index + 1) := if_pos (by omega)
  have hcut : min (index + 1) lines.length = index + 1 := Nat.min_eq_left hindex
  have hlast : word? (index + 1 + count) = some (index + 1 + count) := if_pos (by omega)
  have hslice : index + 1 ≤ min (index + 1 + count) lines.length ∧
      min (index + 1 + count) lines.length ≤ lines.length := by omega
  have htake : (lines.take (min (index + 1 + count) lines.length)).drop (index + 1) =
      (lines.drop (index + 1)).take count := by
    rw [List.drop_take, List.take_eq_take_iff, List.length_drop]
    omega
  simp only [window?, hfirst, hcut, hlast, Option.bind_eq_bind, Option.bind_some]
  rw [slice?, if_pos hslice, htake]

/-- With a larger count the sum no longer fits. -/
example : window? [[], []] 0 (2 ^ 64 - 1) = none := by decide

/-! ### The rule -/

/-- The line has a sign of error handling: one of four words, in any letter case. -/
def HandlesErrors (line : Line) : Prop :=
  ∃ word ∈ ["catch", "try", "error", "except"], ∃ part, SameLetters word.toList part ∧ part <:+: line

theorem occursIn_errorHandling_iff {line : Line} :
    errorHandling.occursIn line = true ↔ HandlesErrors line :=
  occursIn_anyCaseWords_iff

/-- Line `k` is code that calls over the network, and neither it nor any of the next lines, as many as
there are up to `lookahead`, handles errors. -/
structure Unhandled (lookahead : Nat) (lines : List Line) (k : Nat) (line : Line) : Prop where
  found : lines[k]? = some line
  plain : Line.looksBinary line = false
  code : Line.isComment line = false
  body : definition.occursIn line = false
  calls : networkCall.occursIn line = true
  bare : ∀ j ≤ lookahead, ∀ near, lines[k + j]? = some near → ¬ HandlesErrors near

/-- What is said of a network call on a line. -/
def callFault? (line : Line) : Option String :=
  (networkCall.find? line).map fun call =>
    "Network call '" ++
      String.ofList (Text.dropEndWhile (fun d => d == '(' || Text.isBlank d) call.text) ++
      "' has no error handling"

/-- The line is passed over, given what is in its window: it is no code, or errors are handled. -/
def isPassedOver (line : Line) (window : List Line) : Bool :=
  Line.isComment line || definition.occursIn line || errorHandling.occursIn line ||
    window.any errorHandling.occursIn

/-- What is said of a line, given what is in its window. -/
def windowFault? (line : Line) (window : List Line) : Option String :=
  if isPassedOver line window then none else callFault? line

theorem reports_missingErrorHandling (c : Context) (lines : List Line) :
    missingErrorHandling.reports c lines =
      perLine (fun line later => windowFault? line (later.take c.lookahead)) lines := by
  refine congrArg (perLine · lines) (funext fun line => funext fun later => ?_)
  rw [windowFault?, isPassedOver, callFault?, Bool.or_assoc (_ || _)]
  rcases Line.isComment line || definition.occursIn line
  · rcases networkCall.find? line with _ | call
    · simp
    · rcases errorHandling.occursIn line || (later.take c.lookahead).any errorHandling.occursIn <;> rfl
  · rfl

/-- A line is faulted exactly if it is code, has a call and handles no errors within its window. -/
theorem isSome_windowFault?_iff {line : Line} {window : List Line} :
    (windowFault? line window).isSome = true ↔ Line.isComment line = false ∧
      definition.occursIn line = false ∧ networkCall.occursIn line = true ∧
      ∀ near ∈ line :: window, ¬ HandlesErrors near := by
  have hpassed : isPassedOver line window = false ↔ Line.isComment line = false ∧
      definition.occursIn line = false ∧ ∀ near ∈ line :: window, ¬ HandlesErrors near := by
    simp only [isPassedOver, Bool.or_eq_false_iff, List.any_eq_false, List.forall_mem_cons,
      ← occursIn_errorHandling_iff, Bool.not_eq_true, and_assoc]
  have hcall : (callFault? line).isSome = networkCall.occursIn line := Option.isSome_map
  rw [windowFault?]
  split
  · rename_i h
    have hnot := mt hpassed.2 (ne_false_of_eq_true h)
    simp only [Option.isSome_none, Bool.false_eq_true, false_iff]
    exact fun ⟨hcomment, hdefinition, _, hbare⟩ => hnot ⟨hcomment, hdefinition, hbare⟩
  · rename_i h
    obtain ⟨hcomment, hdefinition, hbare⟩ := hpassed.1 (eq_false_of_ne_true h)
    rw [hcall]
    exact ⟨fun hcalls => ⟨hcomment, hdefinition, hcalls, hbare⟩, fun h => h.2.2.1⟩

/-- The line and its window are the lines from it on up to the lookahead. -/
theorem mem_window_iff {lines : List Line} {k lookahead : Nat} {line near : Line}
    (hline : lines[k]? = some line) :
    near ∈ line :: (lines.drop (k + 1)).take lookahead ↔
      ∃ j ≤ lookahead, lines[k + j]? = some near := by
  have hcons : line :: (lines.drop (k + 1)).take lookahead = (lines.drop k).take (lookahead + 1) := by
    obtain ⟨hk, rfl⟩ := List.getElem?_eq_some_iff.1 hline
    rw [List.drop_eq_getElem_cons hk, List.take_succ_cons]
  rw [hcons, List.mem_iff_getElem?]
  constructor
  · rintro ⟨j, hj⟩
    rw [List.getElem?_take] at hj
    split at hj
    · exact ⟨j, by omega, by rwa [List.getElem?_drop] at hj⟩
    · cases hj
  · rintro ⟨j, hle, hj⟩
    exact ⟨j, by rw [List.getElem?_take, if_pos (by omega), List.getElem?_drop, hj]⟩

/-- What is said of a line with a window is said of it with a smaller one. -/
theorem windowFault?_of_subset {line : Line} {window window' : List Line} (hsub : window ⊆ window')
    {description : String} (h : windowFault? line window' = some description) :
    windowFault? line window = some description := by
  obtain ⟨hcomment, hdefinition, hcalls, hbare⟩ :=
    isSome_windowFault?_iff.1 (Option.isSome_of_eq_some h)
  have hsome : (windowFault? line window).isSome = true :=
    isSome_windowFault?_iff.2 ⟨hcomment, hdefinition, hcalls, fun near hnear =>
      hbare near (List.cons_subset_cons line hsub hnear)⟩
  -- Both are what is said of the call, which is the same.
  have hsame : ∀ {window description}, windowFault? line window = some description →
      callFault? line = some description := by
    intro window description h
    rw [windowFault?] at h
    split at h
    · cases h
    · exact h
  obtain ⟨description', h'⟩ := Option.isSome_iff_exists.1 hsome
  rw [h', ← hsame h, hsame h']

/-- A line is unhandled exactly if it is faulted with its window. -/
theorem unhandled_iff {lines : List Line} {lookahead k : Nat} {line : Line} :
    Unhandled lookahead lines k line ↔ lines[k]? = some line ∧ Line.looksBinary line = false ∧
      ∃ description, windowFault? line ((lines.drop (k + 1)).take lookahead) = some description := by
  rw [← Option.isSome_iff_exists, isSome_windowFault?_iff]
  constructor
  · intro h
    refine ⟨h.found, h.plain, h.code, h.body, h.calls, fun near hnear => ?_⟩
    obtain ⟨j, hj, hat⟩ := (mem_window_iff h.found).1 hnear
    exact h.bare j hj near hat
  · rintro ⟨hline, hplain, hcomment, hdefinition, hcalls, hbare⟩
    exact ⟨hline, hplain, hcomment, hdefinition, hcalls, fun j hj near hnear =>
      hbare near ((mem_window_iff hline).2 ⟨j, hj, hnear⟩)⟩

/-- Windows are the same if the lines in them are. -/
theorem window_congr {lines others : List Line} {n k k' : Nat}
    (h : ∀ j ≤ n, lines[k + j]? = others[k' + j]?) :
    (lines.drop (k + 1)).take n = (others.drop (k' + 1)).take n := by
  refine List.ext_getElem? fun j => ?_
  rw [List.getElem?_take, List.getElem?_take]
  split
  · rename_i hj
    rw [List.getElem?_drop, List.getElem?_drop, Nat.add_assoc, Nat.add_assoc]
    exact h (1 + j) (by omega)
  · rfl

/-- A line is reported exactly if it is `Unhandled`; what is said of it depends on the line and its
window alone, wherever these stand; and a longer window leaves fewer hits. In a text that can be held
in memory the window of a line is found by arithmetic in machine words. -/
theorem hits_missingErrorHandling (c : Context) {n m : Nat} (hle : n ≤ m) (content : String) :
    let lines := Text.lines content.toList
    let hits (lookahead : Nat) := missingErrorHandling.hits { c with lookahead }
    let said (lines : List Line) (k : Nat) :=
      ((hits n lines).filter (·.line == k + 1)).map (·.description)
    (∀ k, (∃ hit ∈ hits n lines, hit.line = k + 1) ↔ ∃ line, Unhandled n lines k line) ∧
      (∀ (other : String) (k k' : Nat),
        (∀ j ≤ n, lines[k + j]? = (Text.lines other.toList)[k' + j]?) →
          said lines k = said (Text.lines other.toList) k') ∧
      (hits m lines).Sublist (hits n lines) ∧
      (content.length < 2 ^ 63 → n < 2 ^ 63 → ∀ k line, lines[k]? = some line →
        Line.looksBinary line = false → ∃ window, window? lines k n = some window ∧
          said lines k = (windowFault? line window).toList) := by
  intro lines hits said
  have hsaid : ∀ lines k, said lines k = (lines[k]?.bind fun line =>
      if Line.looksBinary line then none
      else windowFault? line ((lines.drop (k + 1)).take n)).toList := fun lines k =>
    descriptions_of_perLine (reports_missingErrorHandling _ lines) k
  refine ⟨fun k => ?_, fun other k k' hsame => ?_, ?_, fun hcontent hn k line hline hplain => ?_⟩
  · rw [exists_hit_at_iff, reports_missingErrorHandling]
    simp only [mem_perLine_iff, unhandled_iff]
    constructor
    · rintro ⟨description, line, hline, hplain, hfault⟩
      exact ⟨line, hline, hplain, description, hfault⟩
    · rintro ⟨line, hline, hplain, description, hfault⟩
      exact ⟨description, line, hline, hplain, hfault⟩
  · have hline : lines[k]? = (Text.lines other.toList)[k']? := hsame 0 (Nat.zero_le n)
    rw [hsaid, hsaid, hline, window_congr hsame]
  -- A longer window shows more lines that may handle errors.
  · refine List.Sublist.map _ ?_
    rw [reports_missingErrorHandling, reports_missingErrorHandling]
    exact perLineFrom_sublist (fun line later description =>
      windowFault?_of_subset (List.take_subset_take_left later hle)) 1 lines
  · have hlines : lines.length < 2 ^ 63 :=
      Nat.lt_of_le_of_lt (Text.length_lines_le content.toList) (by rwa [String.length_toList])
    obtain ⟨hk, -⟩ := List.getElem?_eq_some_iff.1 hline
    refine ⟨_, window?_eq hlines hk hn, ?_⟩
    rw [hsaid, hline, Option.bind_some, hplain]
    rfl

/-- A call whose errors are handled two lines below: a window of one line does not reach them, and the
widest window does. -/
theorem hits_missingErrorHandling_below :
    let content := "r = Http.get(url)\nx = 1\nRetrying = x\n"
    let lines := Text.lines content.toList
    let hits (lookahead : Nat) := missingErrorHandling.hits ⟨.empty, ∅, lookahead⟩ lines
    (∃ hit ∈ hits 1, hit.line = 1) ∧ ¬ (∃ hit ∈ hits (2 ^ 63 - 1), hit.line = 1) ∧
      (hits (2 ^ 63 - 1)).Sublist (hits 1) ∧ content.length < 2 ^ 63 ∧
      (∃ window, window? lines 0 (2 ^ 63 - 1) = some window) ∧
      (hits 1).map (·.description) = ["Network call 'Http.get' has no error handling"] := by
  intro content lines hits
  have hline : lines[0]? = some "r = Http.get(url)".toList := by decide
  have hplain : Line.looksBinary "r = Http.get(url)".toList = false := by decide
  have hlength : content.length < 2 ^ 63 := by decide
  have hnext : lines[1]? = some "x = 1".toList := by decide
  have hbelow : lines[2]? = some "Retrying = x".toList := by decide
  have hunhandled : Unhandled 1 lines 0 "r = Http.get(url)".toList := by
    refine ⟨hline, hplain, by decide, by decide +kernel, by decide +kernel, fun j hj near hnear => ?_⟩
    rw [← occursIn_errorHandling_iff]
    obtain rfl | rfl : j = 0 ∨ j = 1 := by omega
    · obtain rfl := Option.some.inj (hline.symm.trans hnear)
      decide +kernel
    · obtain rfl := Option.some.inj (hnext.symm.trans hnear)
      decide +kernel
  have hhandled : ∀ line, ¬ Unhandled (2 ^ 63 - 1) lines 0 line := by
    intro line h
    refine h.bare 2 (by decide) _ hbelow ?_
    rw [← occursIn_errorHandling_iff]
    decide +kernel
  have hshort := hits_missingErrorHandling ⟨.empty, ∅, 1⟩ (by decide : 1 ≤ 2 ^ 63 - 1) content
  have hlong := hits_missingErrorHandling ⟨.empty, ∅, 1⟩ (Nat.le_refl (2 ^ 63 - 1)) content
  obtain ⟨window, hwindow, -⟩ := hlong.2.2.2 hlength (by decide) 0 _ hline hplain
  exact ⟨(hshort.1 0).2 ⟨_, hunhandled⟩, fun h => (hlong.1 0).1 h |>.elim hhandled, hshort.2.2.1,
    hlength, ⟨window, hwindow⟩, by decide +kernel⟩

end Rule

end SourceAudit
