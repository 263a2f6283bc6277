import SourceAudit.Proofs.Line.Code
import SourceAudit.Proofs.Pattern.Matching
import SourceAudit.Proofs.Scan.OnLine

/-!
# Hardcoded values on lines of code

In a text without block comments, a line that is neither a comment nor put off is code. Every scan has
a hit on such a line if it holds a hardcoded value, and the hit is named after the first kind of the
catalogue that is found there (`hitsAt_hardcodedValue`). This is so unless the line starts with a star:
the rule then takes it for the continuation of a block comment, though no block has begun, and passes
over a value among unpacked arguments (`hitsAt_hardcodedValue_unpacking`).
-/

namespace SourceAudit

/-! ### Lines of a text -/

namespace Text

/-- A line without its end is the start of the line. -/
theorem dropReturn_suffix (read : List Char) : dropReturn read <:+ read := by
  unfold dropReturn
  split
  · exact List.suffix_cons _ _
  · exact List.suffix_refl _

/-- A line of a text is a part of it. -/
theorem isInfix_of_mem_lines {s : List Char} {line : Line} (h : line ∈ lines s) : line <:+: s := by
  -- The begun line stands in front of what is not read yet.
  have hfrom : ∀ (s read : List Char), line ∈ linesFrom read s → line <:+: read.reverse ++ s := by
    intro s
    induction s with
    | nil =>
      intro read h
      rw [linesFrom] at h
      split at h
      · cases h
      · rw [List.mem_singleton.1 h, List.append_nil]
    | cons c rest ih =>
      intro read h
      rw [linesFrom] at h
      split at h
      · rcases List.mem_cons.1 h with rfl | h
        · have hstart : (dropReturn read).reverse <+: read.reverse :=
            List.reverse_prefix.2 (dropReturn_suffix read)
          exact (hstart.trans (List.prefix_append _ _)).isInfix
        · have hrest : rest <:+ read.reverse ++ c :: rest :=
            (List.suffix_cons c rest).trans (List.suffix_append _ _)
          exact (ih [] h).trans hrest.isInfix
      · have hread := ih (c :: read) h
        rwa [List.reverse_cons, List.append_assoc, List.singleton_append] at hread
  exact hfrom s [] h

end Text

/-! ### Lines that are put off -/

namespace Line

open Pattern

/-- The text holds a word that is no part of a longer word. -/
def HasWord (word text : List Char) : Prop :=
  ∃ before after, text = before ++ (word ++ after) ∧
    (∀ c ∈ before.getLast?, Text.isWord c = false) ∧ ∀ c ∈ after.head?, Text.isWord c = false

/-- Around a text that starts and ends like a word, the edges of words are where no longer word goes
on. -/
theorem atWordEdge_iff {word : List Char} {s t : Spot} (h : s.Skips word t)
    (hfirst : word.head?.any Text.isWord = true) (hlast : word.getLast?.any Text.isWord = true) :
    (s.atWordEdge = true ↔ ∀ c ∈ s.before, Text.isWord c = false) ∧
      (t.atWordEdge = true ↔ ∀ c ∈ t.rest.head?, Text.isWord c = false) := by
  have hnone : ∀ c? : Option Char, (c?.any Text.isWord = false) ↔ ∀ c ∈ c?, Text.isWord c = false := by
    rintro (_ | c)
    · simp
    · simp
  have hhead : s.rest.head?.any Text.isWord = true := by
    rw [h.rest]
    rcases word with _ | ⟨c, word⟩
    · cases hfirst
    · exact hfirst
  have hbefore : t.before.any Text.isWord = true := by
    rw [h.before]
    rcases hend : word.getLast? with _ | c
    · rw [hend] at hlast
      cases hlast
    · rwa [hend] at hlast
  rw [Spot.atWordEdge, Spot.atWordEdge, hhead, hbefore, ← hnone, ← hnone]
  constructor
  · simp
  · simp

/-- A line is put off by one of two words. -/
theorem isDeferred_iff {line : List Char} :
    isDeferred line = true ↔ HasWord "TODO".toList line ∨ HasWord "FIXME".toList line := by
  have hword : ∀ w ∈ ["TODO", "FIXME"], w.toList.head?.any Text.isWord = true ∧
      w.toList.getLast?.any Text.isWord = true := by decide
  have hsome : (HasWord "TODO".toList line ∨ HasWord "FIXME".toList line) ↔
      ∃ w ∈ ["TODO", "FIXME"], HasWord w.toList line := by simp
  rw [isDeferred, deferredMarker, occursIn_iff, hsome]
  constructor
  · rintro ⟨front, rest, t, rfl, h⟩
    obtain ⟨v, h, hend⟩ := reaches_append_iff.1 h
    obtain ⟨u, hstart, hwords⟩ := reaches_append_iff.1 h
    obtain ⟨hedge, rfl⟩ := reaches_wordEdge_iff.1 hstart
    obtain ⟨hedge', rfl⟩ := reaches_wordEdge_iff.1 hend
    obtain ⟨w, hw, hskips⟩ := reaches_words_iff.1 hwords
    obtain ⟨hbefore, hafter⟩ := atWordEdge_iff hskips (hword w hw).1 (hword w hw).2
    have hrest : rest = w.toList ++ t.rest := hskips.rest
    exact ⟨w, hw, front, t.rest, by rw [hrest], hbefore.1 hedge, hafter.1 hedge'⟩
  · rintro ⟨w, hw, before, after, rfl, hfree, hfree'⟩
    let s : Spot := ⟨before.getLast?, w.toList ++ after, []⟩
    have hs : s.rest = w.toList ++ after := rfl
    obtain ⟨t, hskips, ht⟩ := Spot.exists_skips hs
    obtain ⟨hbefore, hafter⟩ := atWordEdge_iff hskips (hword w hw).1 (hword w hw).2
    have hend : ∀ c ∈ t.rest.head?, Text.isWord c = false := ht ▸ hfree'
    exact ⟨before, _, t, rfl, ((Reaches.wordEdge (hbefore.2 hfree)).seq
      (reaches_words_iff.2 ⟨w, hw, hskips⟩)).seq (.wordEdge (hafter.2 hend))⟩

end Line

/-! ### The rule -/

namespace Rule

open Text (Line)

/-- The hit for a kind of literal on a line. -/
def literalHit (line : Nat) (kind : LiteralKind) : Hit where
  ruleId := "HCV001"
  line := line
  category := .hardcodedValues
  severity := .medium
  description := "Hardcoded " ++ String.ofList (Text.lower kind.name.toList) ++ ": " ++ kind.description

/-- Every scan has the hit on a line that the first kind of literal found there gives, unless the line
is taken for a comment or put off. -/
theorem hitsAt_hardcodedValue_eq (modules : NameSet) (policy : Policy) {content : String} {k : Nat}
    {line : Line} (hline : (Text.lines content.toList)[k]? = some line)
    (hplain : Line.looksBinary line = false) :
    hitsAt ((Scanner.default.withFirstParty modules).scan policy content) hardcodedValue.id (k + 1) =
      if Line.isComment line || Line.isDeferred line then []
      else ((literalKind? line).map (literalHit (k + 1))).toList := by
  have hreports : ∀ c lines, hardcodedValue.reports c lines = perLine (fun line _ =>
      if Line.isComment line || Line.isDeferred line then none
      else (literalKind? line).map fun kind =>
        "Hardcoded " ++ String.ofList (Text.lower kind.name.toList) ++ ": " ++ kind.description) lines :=
    fun _ _ => rfl
  refine (Scanner.hitsAt_default modules policy (by simp [catalogue]) hreports hline hplain).trans ?_
  split
  · rfl
  · rw [Option.map_map]
    rfl

/-- In a text without block comments, every scan has one hit on a line of code with a hardcoded value,
named after the first kind of the catalogue that is found, and none on a line of code without one. On a
line that starts with a star it has none either. -/
theorem hitsAt_hardcodedValue (modules : NameSet) (policy : Policy) {content : String} {k : Nat}
    {line : Line} (hblock : ¬ "/*".toList <:+: content.toList)
    (hline : (Text.lines content.toList)[k]? = some line) (hplain : Line.looksBinary line = false)
    (hhash : ¬ "#".toList <+: Text.trimStart line)
    (hslashes : ¬ "//".toList <+: Text.trimStart line)
    (htodo : ¬ Line.HasWord "TODO".toList line) (hfixme : ¬ Line.HasWord "FIXME".toList line) :
    let hits := hitsAt ((Scanner.default.withFirstParty modules).scan policy content)
      hardcodedValue.id (k + 1)
    (¬ "*".toList <+: Text.trimStart line →
      (∀ kind before after, LiteralKind.catalogue = before ++ kind :: after →
        (∀ other ∈ before, other.find? line = none) → (kind.find? line).isSome = true →
          hits = [literalHit (k + 1) kind]) ∧
      ((∀ kind ∈ LiteralKind.catalogue, kind.find? line = none) → hits = [])) ∧
    ("*".toList <+: Text.trimStart line → hits = []) := by
  intro hits
  have hhits := hitsAt_hardcodedValue_eq modules policy hline hplain
  have hdeferred : Line.isDeferred line = false :=
    eq_false_of_ne_true fun h => (Line.isDeferred_iff.1 h).elim htodo hfixme
  have hstarts : ¬ Line.startsComment (Text.trimStart line) = true := by
    intro h
    rcases Line.startsComment_iff.1 h with h | h | h
    · exact hhash h
    · exact hslashes h
    · have hpart : Text.trimStart line <:+: line := (List.dropWhile_suffix _).isInfix
      exact hblock (h.isInfix.trans
        (hpart.trans (Text.isInfix_of_mem_lines (List.mem_of_getElem? hline))))
  refine ⟨fun hstar => ?_, fun hstar => ?_⟩
  · have hcode : Line.isComment line = false :=
      eq_false_of_ne_true fun h => (Line.isComment_iff.1 h).elim hstarts hstar
    rw [hcode, hdeferred, if_neg (by decide)] at hhits
    refine ⟨fun kind before after hcatalogue hbefore hkind => ?_, fun hnone => ?_⟩
    · have hfound : literalKind? line = some kind := by
        rw [literalKind?, hcatalogue, List.find?_eq_some_iff_append]
        refine ⟨hkind, before, after, rfl, fun other hother => ?_⟩
        simp [hbefore other hother]
      exact hhits.trans (by rw [hfound]; rfl)
    · have hfound : literalKind? line = none :=
        List.find?_eq_none.2 fun kind hkind => by simp [hnone kind hkind]
      exact hhits.trans (by rw [hfound]; rfl)
  · have hcomment : Line.isComment line = true := Line.isComment_iff.2 (.inr hstar)
    exact hhits.trans (if_pos (by rw [hcomment, Bool.true_or]))

/-- A password among the arguments of a call, and none on the line before. -/
theorem hitsAt_hardcodedValue_argument :
    (hitsAt ((Scanner.default.withFirstParty ∅).scan Policy.empty
        "connect(\n    password=\"hunter22\")\n") hardcodedValue.id 2).map (·.description) =
      ["Hardcoded credential assignment: Password, secret, key or token assigned a literal value"] ∧
      hitsAt ((Scanner.default.withFirstParty ∅).scan Policy.empty
        "connect(\n    password=\"hunter22\")\n") hardcodedValue.id 1 = [] := by
  have hmarked : ∀ {line : Line}, Line.isDeferred line = false →
      ¬ Line.HasWord "TODO".toList line ∧ ¬ Line.HasWord "FIXME".toList line := fun h =>
    not_or.1 (mt Line.isDeferred_iff.2 (by simp [h]))
  have hpassword : Line.isDeferred "    password=\"hunter22\")".toList = false := by decide +kernel
  have hcall : Line.isDeferred "connect(".toList = false := by decide +kernel
  have hblock : ¬ "/*".toList <:+: "connect(\n    password=\"hunter22\")\n".toList := by decide
  have hline : (Text.lines "connect(\n    password=\"hunter22\")\n".toList)[0]? =
      some "connect(".toList := by decide
  have hline' : (Text.lines "connect(\n    password=\"hunter22\")\n".toList)[1]? =
      some "    password=\"hunter22\")".toList := by decide
  have hfirst := hitsAt_hardcodedValue ∅ Policy.empty hblock hline (by decide) (by decide) (by decide)
    (hmarked hcall).1 (hmarked hcall).2
  have hsecond := hitsAt_hardcodedValue ∅ Policy.empty hblock hline' (by decide) (by decide)
    (by decide) (hmarked hpassword).1 (hmarked hpassword).2
  refine ⟨?_, (hfirst.1 (by decide)).2 (by decide +kernel)⟩
  have hhit := (hsecond.1 (by decide)).1 (LiteralKind.catalogue[10]) (LiteralKind.catalogue.take 10)
    (LiteralKind.catalogue.drop 11) rfl (by decide +kernel) (by decide +kernel)
  rw [hhit]
  decide +kernel

/-- A call that unpacks arguments before a password. -/
def unpackingCall : String := "connect(\n    *args, password=\"hunter22\")\n"

/-- The second line of the call. -/
def unpackingLine : Line := "    *args, password=\"hunter22\")".toList

/-- A password behind arguments that are unpacked at the start of a line escapes the rule: the text has
no block comment, but the star counts as the continuation of one. -/
theorem hitsAt_hardcodedValue_unpacking :
    ¬ "/*".toList <:+: unpackingCall.toList ∧
      (Text.lines unpackingCall.toList)[1]? = some unpackingLine ∧
      Line.looksBinary unpackingLine = false ∧
      ¬ "#".toList <+: Text.trimStart unpackingLine ∧
      ¬ "//".toList <+: Text.trimStart unpackingLine ∧
      Line.isDeferred unpackingLine = false ∧
      (literalKind? unpackingLine).map (·.name) = some "Credential assignment" ∧
      hitsAt (Scanner.default.scan Policy.empty unpackingCall) hardcodedValue.id 2 = [] := by
  have hline : (Text.lines unpackingCall.toList)[1]? = some unpackingLine := by decide
  have hplain : Line.looksBinary unpackingLine = false := by decide
  refine ⟨by decide, hline, hplain, by decide, by decide, by decide +kernel, by decide +kernel, ?_⟩
  refine (hitsAt_hardcodedValue_eq ∅ Policy.empty hline hplain).trans (if_pos ?_)
  decide

end Rule

end SourceAudit
