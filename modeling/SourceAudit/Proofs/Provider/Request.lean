import SourceAudit.Proofs.Store.Identity
import SourceAudit.Proofs.Url.Target
import SourceAudit.Provider.Remote

/-!
# What the request for a file asks for

The path of a file is put into the text of a URL as it is, and the text is then read as a URL. A
request asks for the file exactly if all names of its path stand verbatim in such a text
(`sent_asksFor_iff`). Otherwise it asks for another file, or with other fields: the request for
`a#b.py` is one for `a`. The branch is a field of the query, which is encoded.
-/

namespace SourceAudit

open Text Utf8

/-- The request asks for the file with these names on a branch. -/
structure Request.AsksFor (q : Request) (names : List (List Char)) (branch : String) : Prop where
  names : Url.targetNames q.url.target = names.map encode
  fields : Url.targetFields q.url.target = [(encode "ref".toList, encode branch.toList)]

instance (q : Request) (names : List (List Char)) (branch : String) :
    Decidable (q.AsksFor names branch) :=
  decidable_of_iff (_ ∧ _) ⟨fun h => ⟨h.1, h.2⟩, fun h => ⟨h.names, h.fields⟩⟩

/-- A request asks for one file only. -/
theorem Request.AsksFor.unique {q : Request} {names names' : List (List Char)}
    {branch branch' : String} (h : q.AsksFor names branch) (h' : q.AsksFor names' branch') :
    names = names' ∧ branch = branch' := by
  constructor
  · exact List.map_injective_iff.2 encode_injective (h.names.symm.trans h'.names)
  · have hfields := h.fields.symm.trans h'.fields
    have hbranch : encode branch.toList = encode branch'.toList := by simpa using hfields
    exact String.toList_injective (encode_injective hbranch)

namespace Remote

variable {r : Remote} {owner repo branch : String} {names : List (List Char)}

/-- The requests that are sent while a file is fetched, under these answers. -/
def sent (r : Remote) (answer : Request → Except TransportFault Response)
    (owner repo path branch : String) : List Request :=
  let transport : Transport (StateM (List Request)) := fun q => do
    modify (· ++ [q])
    pure (answer q)
  ((r.fetch transport owner repo path branch).run []).2

/-- A request is sent if there is one for the URL. -/
theorem sent_eq (answer : Request → Except TransportFault Response)
    (owner repo path branch : String) : r.sent answer owner repo path branch =
      ((r.request rawType (r.contentsUrl owner repo path) [("ref", branch)]).toOption).toList := by
  rw [sent, fetch, get]
  rcases r.request rawType (r.contentsUrl owner repo path) [("ref", branch)] with e | q
  · rfl
  · simp only [bind_assoc, StateT.run_bind, StateT.run_modify, pure_bind]
    -- Whatever the answer is, no other request follows.
    rcases answer q with e | response
    · rfl
    · simp only [StateT.run_pure, pure_bind]
      rcases judge (r.contentsUrl owner repo path) response with e | found <;> rfl

/-- A name that a store accepts is a name of a path. -/
theorem isName_of_name {field value : String} (h : Validation.name field value = .ok ()) :
    Url.IsName value.toList := by
  obtain ⟨hclean, hchars, hdot, hdots⟩ := Validation.name_ok_iff.1 h
  obtain ⟨c, hc, -⟩ := hclean.worded
  refine ⟨List.ne_nil_of_mem hc, fun hslash => ?_, fun heq => hdot ?_, fun heq => hdots ?_⟩
  · exact absurd (hchars '/' hslash) (by decide)
  · exact String.toList_injective heq
  · exact String.toList_injective heq

/-- A name that a store accepts stands verbatim in the text of a URL. -/
theorem verbatim_of_name {field value : String} (h : Validation.name field value = .ok ()) :
    Url.Verbatim [value.toList] := by
  have hchars : ∀ c ∈ value.toList, c ∉ Url.misread ∧ c ≠ '%' ∧ 0x20 < c.toNat := by
    intro c hc
    have hname := (Validation.name_ok_iff.1 h).2.1 c hc
    exact Validation.forall_isNameChar (P := fun c => c ∉ Url.misread ∧ c ≠ '%' ∧ 0x20 < c.toNat)
      (by decide +kernel) hname
  refine ⟨?_, ?_, ?_⟩
  · exact List.forall_mem_singleton.2 fun c hc => (hchars c hc).1
  · exact List.forall_mem_singleton.2
      (Url.hasEscape_of_not_mem fun hmem => (hchars '%' hmem).2.1 rfl)
  · intro name hname c hc
    obtain rfl : value.toList = name := by simpa using hname
    exact (hchars c (List.mem_of_getLast? hc)).2.2

/-- The API that requests are for: a server and the names of a path on it. -/
structure Site (r : Remote) where
  server : Url.Server
  root : List (List Char)
  names : ∀ name ∈ root, Url.IsName name
  verbatim : Url.Verbatim root
  text : r.apiUrl.toList = server.text ++ root.flatMap ('/' :: ·)

namespace Site

/-- The names that the API has for a file. -/
def file (site : r.Site) (owner repo : String) (names : List (List Char)) : List (List Char) :=
  site.root ++ ["repos".toList, owner.toList, repo.toList, "contents".toList] ++ names

/-- The API has other names for another file. -/
theorem file_injective (site : r.Site) {owner owner' repo repo' : String}
    {names names' : List (List Char)}
    (h : site.file owner' repo' names' = site.file owner repo names) :
    owner' = owner ∧ repo' = repo ∧ names' = names := by
  rw [file, file, List.append_assoc, List.append_assoc] at h
  have hrest := List.append_cancel_left h
  simp only [List.cons_append, List.nil_append, List.cons.injEq, true_and] at hrest
  exact ⟨String.toList_injective hrest.1, String.toList_injective hrest.2.1, hrest.2.2⟩

/-- The URL of a file on a branch. -/
def fileUrl (site : r.Site) (owner repo : String) (names : List (List Char)) (branch : String) :
    Url :=
  { site.server.url with
    segments := (site.file owner repo names).map (Url.percentEncode Url.outsidePath)
    query := some (Url.formEncode "ref".toList ++ '=' :: Url.formEncode branch.toList)
    fragment := none }

end Site

/-- The server that settings name if nothing is set. -/
def usualServer : Url.Server where
  scheme := "https".toList
  authority := "api.github.com".toList
  url := { scheme := "https", host := "api.github.com".toList, segments := [[]] }
  web := .inr rfl
  plain := by decide
  read := by decide +kernel

/-- Its API has no path. -/
def Site.usual (token : Option String) : (ofSettings {} token).Site where
  server := usualServer
  root := []
  names := fun _ hname => absurd hname List.not_mem_nil
  verbatim := by decide
  text := by
    have htext : dropEndWhile (· == '/') "https://api.github.com".toList = usualServer.text := by
      decide
    rw [List.flatMap_nil, List.append_nil, ← htext]
    exact String.toList_ofList

/-- The text of a path of names. -/
def pathText (names : List (List Char)) : String :=
  String.ofList (joinWith ['/'] names)

section

variable (site : r.Site) (h : Validation.Names owner repo) (hpath : ∀ name ∈ names, Url.IsName name)

include h hpath

/-- The names that the API has for a file are names of a path. -/
theorem Site.isName_of_mem_file : ∀ name ∈ site.file owner repo names, Url.IsName name := by
  have hrepos : Url.IsName "repos".toList := by decide
  have hcontents : Url.IsName "contents".toList := by decide
  intro name hname
  simp only [file, List.mem_append, List.mem_cons, List.not_mem_nil, or_false] at hname
  rcases hname with (hroot | rfl | rfl | rfl | rfl) | hname
  · exact site.names name hroot
  · exact hrepos
  · exact isName_of_name h.owner
  · exact isName_of_name h.name
  · exact hcontents
  · exact hpath name hname

omit hpath in
/-- They stand verbatim in the text of a URL if those of the path of the file do. -/
theorem Site.verbatim_file_iff :
    Url.Verbatim (site.file owner repo names) ↔ Url.Verbatim names := by
  refine ⟨Url.Verbatim.of_append, fun hnames => (site.verbatim.append ?_).append hnames⟩
  have hrepos : Url.Verbatim ["repos".toList] := by decide
  have hcontents : Url.Verbatim ["contents".toList] := by decide
  exact ((hrepos.append (verbatim_of_name h.owner)).append (verbatim_of_name h.name)).append
    hcontents

omit h in
/-- The text of the URL of a file. -/
theorem Site.toList_contentsUrl : (r.contentsUrl owner repo (pathText names)).toList =
    site.server.text ++ '/' :: joinWith ['/'] (site.file owner repo names) := by
  have hne : site.file owner repo names ≠ [] := by simp [file]
  rw [contentsUrl, pathText, String.toList_ofList, ← flatMap_cons_eq hne, file]
  -- The text has a slash after the contents only if something follows.
  rcases eq_or_ne names [] with rfl | hnames
  · have hempty : String.ofList (trimWhile (· == '/') (joinWith ['/'] [])) = "" := by decide
    rw [if_pos hempty]
    simp [site.text]
  · have htext : String.ofList (joinWith ['/'] names) ≠ "" := by
      obtain ⟨c, s, hs, -⟩ := Url.exists_cons hnames hpath
      rw [hs]
      exact fun heq => by simpa using congrArg String.toList heq
    rw [Url.trimWhile_joinWith hnames hpath, if_neg htext, List.flatMap_append,
      flatMap_cons_eq hnames]
    simp [site.text]

end

/-- The request for a URL is for that URL, perhaps without the user in it, who is then named in the
header if no token is. -/
theorem exists_requestFor (r : Remote) (accept : String) (u : Url) :
    ∃ (user : List Char) (basic : Option String), (user = u.user ∨ user = []) ∧
      (∀ value ∈ basic, ∃ rest, value = "Basic " ++ rest) ∧ r.requestFor accept u =
        if !u.isWeb then .error (.badScheme { u with user }.toText)
        else if !fitsRequest { u with user } then .error (.badForm { u with user }.toText)
        else .ok { url := { u with user }, accept, userAgent,
                   authorization := r.authorization <|> basic } := by
  rw [requestFor]
  rcases credentials? u.user with _ | ⟨name, password⟩
  · exact ⟨u.user, none, .inl rfl, by simp, rfl⟩
  · exact ⟨[], some (basicAuthorization name password), .inr rfl, by simp [basicAuthorization], rfl⟩

theorem requestFor_ok {accept : String} {u : Url} {q : Request}
    (h : r.requestFor accept u = .ok q) : q.url.target = u.target := by
  obtain ⟨user, basic, -, -, heq⟩ := exists_requestFor r accept u
  rw [heq] at h
  split_ifs at h
  cases h
  rfl

/-- A URL that a request can hold is one that it can hold without a user. -/
theorem fitsRequest_of_user {u : Url} (h : fitsRequest u = true) :
    fitsRequest { u with user := [] } = true := by
  have hle : ({ u with user := [] } : Url).toText.length ≤ u.toText.length := by
    simp only [Url.toText, Url.origin, Url.target, Url.path, List.length_append]
    simp
  simp only [fitsRequest, Bool.and_eq_true, decide_eq_true_eq] at h ⊢
  exact ⟨hle.trans h.1, h.2⟩

theorem requestFor_of_fits {u : Url} (hweb : u.isWeb = true) (hfits : fitsRequest u = true)
    (accept : String) : ∃ q, r.requestFor accept u = .ok q := by
  obtain ⟨user, basic, huser, -, heq⟩ := exists_requestFor r accept u
  have huser : fitsRequest { u with user } = true := by
    rcases huser with rfl | rfl
    · exact hfits
    · exact fitsRequest_of_user hfits
  rw [heq, hweb, huser]
  exact ⟨_, rfl⟩

/-- The URL that is read from the text for a file, with the branch. -/
def Site.readUrl (site : r.Site) (owner repo : String) (names : List (List Char))
    (branch : String) : Url :=
  let text := '/' :: Url.tidy (joinWith ['/'] (site.file owner repo names))
  (site.server.url.withTail text).withFields [("ref".toList, branch.toList)]

/-- The request that is sent is the one for the URL that is read. -/
theorem Site.sent_eq (site : r.Site) (hpath : ∀ name ∈ names, Url.IsName name)
    (owner repo branch : String) (answer : Request → Except TransportFault Response) :
    r.sent answer owner repo (pathText names) branch =
      (r.requestFor rawType (site.readUrl owner repo names branch)).toOption.toList := by
  have hhost : (site.server.url.withTail
      ('/' :: Url.tidy (joinWith ['/'] (site.file owner repo names)))).host.isEmpty = false :=
    Bool.eq_false_iff.2 fun hempty =>
      site.server.url_host_ne_nil (List.isEmpty_iff.1 hempty)
  rw [Remote.sent_eq, request, site.toList_contentsUrl hpath, Url.Server.parseKnown_append]
  dsimp only
  rw [hhost]
  rfl

/-- Names that stand verbatim make up the URL of the file. -/
theorem Site.readUrl_eq (site : r.Site) (h : Validation.Names owner repo)
    (hpath : ∀ name ∈ names, Url.IsName name) (hv : Url.Verbatim names) (branch : String) :
    site.readUrl owner repo names branch = site.fileUrl owner repo names branch := by
  have hne : site.file owner repo names ≠ [] := by simp [file]
  have hfile := site.isName_of_mem_file h hpath
  have hv := (site.verbatim_file_iff h).2 hv
  have htail : Url.cutTail ('/' :: Url.tidy (joinWith ['/'] (site.file owner repo names))) =
      ('/' :: joinWith ['/'] (site.file owner repo names), none, none) := by
    rw [Url.tidy_joinWith hne hfile hv.plain hv.untrimmed, Url.cutTail_slash,
      Url.cutTail_joinWith hv.plain]
  have hsegments := Url.segmentsOf_joinWith hne hfile hv
  rw [Url.segmentsOf, htail] at hsegments
  rw [readUrl, fileUrl, Url.withTail, htail, ← hsegments, ← Url.addFields_none]
  rfl

/-- The URL that is read has the segments that its text is read with. -/
theorem Site.targetNames_readUrl (site : r.Site) (owner repo : String) (names : List (List Char))
    (branch : String) : Url.targetNames (site.readUrl owner repo names branch).target =
      Url.bytesOf (Url.segmentsOf (joinWith ['/'] (site.file owner repo names))) :=
  Url.targetNames_target (Url.segmentsOf_ne_nil _) (Url.not_mem_of_mem_segmentsOf _)

/-- The only field of the URL of a file is its branch. -/
theorem Site.targetFields_readUrl (site : r.Site) (h : Validation.Names owner repo)
    (hpath : ∀ name ∈ names, Url.IsName name) (hv : Url.Verbatim names) (branch : String) :
    Url.targetFields (site.readUrl owner repo names branch).target =
      [(encode "ref".toList, encode branch.toList)] := by
  have hquery : (site.readUrl owner repo names branch).query =
      some (Url.formEncode "ref".toList ++ '=' :: Url.formEncode branch.toList) := by
    rw [site.readUrl_eq h hpath hv]
    rfl
  rw [Url.targetFields_target (Url.not_mem_of_mem_segmentsOf _), hquery, Option.getD_some,
    Url.formFields_formEncode]

/-- A request that is sent for a file asks for it exactly if the names in its path stand
verbatim. -/
theorem Site.asksFor_iff (site : r.Site) (h : Validation.Names owner repo)
    (hpath : ∀ name ∈ names, Url.IsName name) (branch : String)
    (answer : Request → Except TransportFault Response) :
    ∀ q ∈ r.sent answer owner repo (pathText names) branch,
      q.AsksFor (site.file owner repo names) branch ↔ Url.Verbatim names := by
  have hne : site.file owner repo names ≠ [] := by simp [file]
  have hread := Url.bytesOf_segmentsOf_iff hne (site.isName_of_mem_file h hpath)
  rw [site.verbatim_file_iff h] at hread
  intro q hq
  rw [site.sent_eq hpath] at hq
  have hrequest : r.requestFor rawType (site.readUrl owner repo names branch) = .ok q := by
    rcases hrequest : r.requestFor rawType (site.readUrl owner repo names branch) with e | q'
    · rw [hrequest] at hq
      cases hq
    · rw [hrequest] at hq
      rw [List.mem_singleton.1 hq]
  -- The user in a URL is no part of what the request asks for.
  have htarget := requestFor_ok hrequest
  constructor
  · intro hasks
    refine hread.1 ?_
    rw [← site.targetNames_readUrl, ← htarget, hasks.names]
  · intro hv
    constructor
    · rw [htarget, site.targetNames_readUrl, hread.2 hv]
    · rw [htarget, site.targetFields_readUrl h hpath hv]

/-- A request that is sent for a file asks for it exactly if the names in its path stand verbatim in
the text of a URL. It asks for no other file then, and is sent if a request can hold the URL. -/
theorem sent_asksFor_iff (site : r.Site) (h : Validation.Names owner repo)
    (hpath : ∀ name ∈ names, Url.IsName name) (branch : String)
    (answer : Request → Except TransportFault Response) :
    (∀ q ∈ r.sent answer owner repo (pathText names) branch,
        q.AsksFor (site.file owner repo names) branch ↔ Url.Verbatim names) ∧
      (Url.Verbatim names → ∀ q ∈ r.sent answer owner repo (pathText names) branch,
        ∀ owner' repo' names' branch', q.AsksFor (site.file owner' repo' names') branch' →
          owner' = owner ∧ repo' = repo ∧ names' = names ∧ branch' = branch) ∧
      (Url.Verbatim names → fitsRequest (site.fileUrl owner repo names branch) = true →
        ∃ q, r.sent answer owner repo (pathText names) branch = [q]) := by
  have hall := site.asksFor_iff h hpath branch answer
  refine ⟨hall, ?_, ?_⟩
  · intro hv q hq owner' repo' names' branch' hasks
    obtain ⟨hfile, hbranch⟩ := hasks.unique ((hall q hq).2 hv)
    obtain ⟨howner, hrepo, hnames⟩ := site.file_injective hfile
    exact ⟨howner, hrepo, hnames, hbranch⟩
  · intro hv hfits
    have hweb : (site.fileUrl owner repo names branch).isWeb = true := site.server.isWeb_url
    obtain ⟨q, hq⟩ := requestFor_of_fits (r := r) hweb hfits rawType
    exact ⟨q, by rw [site.sent_eq hpath, site.readUrl_eq h hpath hv, hq]; rfl⟩

/-- Spaces and letters beyond ASCII stand verbatim, and a branch may have slashes. -/
theorem sent_asksFor_iff_spaced : ∃ q,
    (ofSettings {} none).sent (fun _ => .ok ⟨404, [], []⟩) "acme" "tool" "src/a ü.py" "feature/x" =
      [q] ∧
    q.AsksFor (["repos", "acme", "tool", "contents", "src", "a ü.py"].map String.toList)
      "feature/x" := by
  have hnames : Validation.Names "acme" "tool" := by decide
  have hpath : ∀ name ∈ ["src".toList, "a ü.py".toList], Url.IsName name := by decide
  have hv : Url.Verbatim ["src".toList, "a ü.py".toList] := by decide +kernel
  obtain ⟨hasks, -, hsent⟩ := sent_asksFor_iff (Site.usual none) hnames hpath "feature/x"
    fun _ => .ok ⟨404, [], []⟩
  obtain ⟨q, hq⟩ := hsent hv (by decide +kernel)
  exact ⟨q, hq, (hasks q (hq ▸ List.mem_cons_self)).2 hv⟩

/-- The request for a file with a number sign in its name asks for another file. -/
theorem sent_number_sign : Validation.Names "acme" "tool" ∧ Url.IsName "a#b.py".toList ∧ ∃ q,
    (ofSettings {} none).sent (fun _ => .ok ⟨404, [], []⟩) "acme" "tool" "a#b.py" "main" = [q] ∧
    ¬ q.AsksFor (["repos", "acme", "tool", "contents", "a#b.py"].map String.toList) "main" ∧
    q.AsksFor (["repos", "acme", "tool", "contents", "a"].map String.toList) "main" := by
  generalize hsent : (ofSettings {} none).sent (fun _ => .ok ⟨404, [], []⟩) "acme" "tool" "a#b.py"
    "main" = requests
  have hone : requests.length = 1 ∧ ∀ q ∈ requests,
      ¬ q.AsksFor (["repos", "acme", "tool", "contents", "a#b.py"].map String.toList) "main" ∧
      q.AsksFor (["repos", "acme", "tool", "contents", "a"].map String.toList) "main" := by
    rw [← hsent]
    decide +kernel
  obtain ⟨q, rfl⟩ := List.length_eq_one_iff.1 hone.1
  exact ⟨by decide, by decide, q, rfl, hone.2 q List.mem_cons_self⟩

end Remote

end SourceAudit
