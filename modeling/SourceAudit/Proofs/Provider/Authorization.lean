import SourceAudit.Proofs.Provider.Request

/-!
# Whom requests are for

A provider of remote repositories may be given a token. It takes its requests to be authenticated if the
token is more than white space, but a request bears only a token that a header can hold. A token with a
line break at its end, say, is kept and then left out of every request.

The requests that are sent are those for the inquiries, whatever the answers are (`session_eq`). So what
the provider says of them is true of each exactly if every character of its token can stand in a header
(`session_bears_iff`).
-/

namespace SourceAudit

open Text

/-- What a provider is asked for. -/
inductive Inquiry where
  | file (owner repo path branch : String)
  | directory (owner repo path : String)
deriving DecidableEq, Repr

/-- Asks a provider. -/
def Inquiry.ask {m : Type → Type} [Monad m] (p : Provider m) : Inquiry → m Unit
  | file owner repo path branch => do
    let _ ← p.fetch owner repo path branch
    pure ()
  | directory owner repo path => do
    let _ ← p.list owner repo path
    pure ()

/-- The request is made in the name of whom the token stands for. -/
def Request.Bears (q : Request) (token : String) : Prop :=
  q.authorization = some ("Bearer " ++ token)

/-- A header can hold the text: it has no control characters of ASCII but tabs. -/
def IsHeaderText (text : String) : Prop :=
  ∀ c ∈ text.toList, c = '\t' ∨ (0x20 ≤ c.toNat ∧ c.toNat ≠ 0x7F)

instance (text : String) : Decidable (IsHeaderText text) :=
  inferInstanceAs (Decidable (∀ c ∈ text.toList, _))

namespace Remote

variable {r : Remote}

/-! ### The requests that are sent -/

/-- The request for an inquiry, if one can be made. -/
def requested? (r : Remote) : Inquiry → Option Request
  | .file owner repo path branch =>
    (r.request rawType (r.contentsUrl owner repo path) [("ref", branch)]).toOption
  | .directory owner repo path =>
    (r.request listingType (r.contentsUrl owner repo path) []).toOption

/-- A transport that notes the requests. An answer may depend on all requests up to it. -/
def noting (answer : List Request → Except TransportFault Response) :
    Transport (StateM (List Request)) := fun q =>
  modifyGet fun past => (answer (past ++ [q]), past ++ [q])

/-- The requests that are sent while the provider is asked for one thing after the other. -/
def session (r : Remote) (answer : List Request → Except TransportFault Response)
    (inquiries : List Inquiry) : List Request :=
  ((inquiries.forM (Inquiry.ask (r.provider (noting answer)))).run []).2

/-- Requests are sent by the first of two steps only, if the second one sends none. -/
theorem run_bind_of_silent {α β : Type} {f : α → StateM (List Request) β}
    (hf : ∀ a past, ((f a).run past).2 = past) (x : StateM (List Request) α) (past : List Request) :
    ((x >>= f).run past).2 = (x.run past).2 :=
  hf (x.run past).1 (x.run past).2

variable (answer : List Request → Except TransportFault Response) (past : List Request)

/-- To ask for a URL is to send the request for it, if there is one. -/
theorem run_get (r : Remote) (accept url : String) (fields : List (String × String)) :
    ((r.get (noting answer) accept url fields).run past).2 =
      past ++ (r.request accept url fields).toOption.toList := by
  rw [get]
  rcases r.request accept url fields with e | q
  · exact (List.append_nil past).symm
  · simp only [noting, StateT.run_bind, StateT.run_modifyGet]
    rcases answer (past ++ [q]) with e | response <;> rfl

/-- An inquiry sends the request for it, if there is one, and nothing else. -/
theorem run_ask (r : Remote) (i : Inquiry) :
    ((i.ask (r.provider (noting answer))).run past).2 = past ++ (r.requested? i).toList := by
  cases i with
  | file owner repo path branch =>
    rw [requested?, ← run_get answer, Inquiry.ask, run_bind_of_silent (fun _ _ => rfl)]
    -- What is made of the answer sends nothing.
    refine run_bind_of_silent ?_ _ _
    rintro (e | response) <;> exact fun _ => rfl
  | directory owner repo path =>
    rw [requested?, ← run_get answer, Inquiry.ask, run_bind_of_silent (fun _ _ => rfl)]
    refine run_bind_of_silent ?_ _ _
    rintro (e | _ | response)
    · exact fun _ => rfl
    · exact fun _ => rfl
    · intro past
      dsimp only
      split <;> rfl

/-- The requests are those for the inquiries, whatever the answers are. -/
theorem session_eq (r : Remote) (inquiries : List Inquiry) :
    r.session answer inquiries = inquiries.filterMap r.requested? := by
  have hrun : ∀ past, ((inquiries.forM (Inquiry.ask (r.provider (noting answer)))).run past).2 =
      past ++ inquiries.filterMap r.requested? := by
    induction inquiries with
    | nil => exact fun past => (List.append_nil past).symm
    | cons i rest ih =>
      intro past
      calc (((i :: rest).forM (Inquiry.ask (r.provider (noting answer)))).run past).2
          = ((rest.forM (Inquiry.ask (r.provider (noting answer)))).run
              ((i.ask (r.provider (noting answer))).run past).2).2 := rfl
        _ = past ++ (r.requested? i).toList ++ rest.filterMap r.requested? := by rw [ih, run_ask]
        _ = past ++ (i :: rest).filterMap r.requested? := by
          rw [List.append_assoc]
          cases hfirst : r.requested? i <;> simp [hfirst]
  exact hrun []

/-! ### What they bear -/

/-- A request names whom it is for by the token, or else by the user in its URL, or not at all. -/
theorem authorization_request {accept url : String} {fields : List (String × String)} {q : Request}
    (h : r.request accept url fields = .ok q) : ∃ basic : Option String,
      (∀ value ∈ basic, ∃ rest, value = "Basic " ++ rest) ∧
        q.authorization = (r.authorization <|> basic) := by
  obtain ⟨u, hu⟩ : ∃ u, r.requestFor accept u = .ok q := by
    rw [request] at h
    split at h
    · split at h
      · cases h
      · exact ⟨_, h⟩
    · split at h
      · split at h <;> cases h
      · cases h
    · cases h
  obtain ⟨user, basic, -, hbasic, heq⟩ := exists_requestFor r accept u
  rw [heq] at hu
  split_ifs at hu
  cases hu
  exact ⟨basic, hbasic, rfl⟩

theorem exists_request {i : Inquiry} {q : Request} (h : r.requested? i = some q) :
    ∃ accept url fields, r.request accept url fields = .ok q := by
  have hok : ∀ {x : Except RequestFault Request}, x.toOption = some q → x = .ok q := by
    rintro (e | q') hq <;> cases hq
    rfl
  cases i with
  | file | directory =>
    rw [requested?] at h
    exact ⟨_, _, _, hok h⟩

/-- A request bears what the provider names, and nothing else. -/
theorem bears_requested_iff {i : Inquiry} {q : Request} (h : r.requested? i = some q)
    (text : String) : q.Bears text ↔ r.authorization = some ("Bearer " ++ text) := by
  obtain ⟨accept, url, fields, hrequest⟩ := exists_request h
  obtain ⟨basic, hbasic, hq⟩ := authorization_request hrequest
  rw [Request.Bears, hq]
  cases r.authorization with
  | some value => exact Iff.rfl
  | none =>
    refine iff_of_false (fun hsome => ?_) (by simp)
    obtain ⟨rest, hrest⟩ := hbasic _ hsome
    -- The two schemes differ in their second letter.
    have hsecond := congrArg (fun s => s.toList[1]?) hrest
    simp at hsecond

variable {apiUrl text : String} {token : Option String}

/-- A header can hold the token exactly if it can hold the value with the token. -/
theorem fitsHeader_bearer_iff : fitsHeader ("Bearer " ++ text) = true ↔ IsHeaderText text := by
  have hscheme : "Bearer ".toList.all (fun c => c = '\t' || (0x20 ≤ c.toNat && c.toNat ≠ 0x7F)) =
      true := by
    decide
  rw [fitsHeader, String.toList_append, List.all_append, hscheme, Bool.true_and]
  simp [IsHeaderText]

/-- The token that is kept is the one that was given, unless that is white space. -/
theorem token_new_iff : (new apiUrl token).token = some text ↔
    token = some text ∧ trim text.toList ≠ [] := by
  simp [new, Option.filter_eq_some_iff]

/-- A provider is authenticated by a token that is more than white space. -/
theorem isAuthenticated_new_iff : (new apiUrl token).isAuthenticated = true ↔
    ∃ text, token = some text ∧ trim text.toList ≠ [] := by
  simp only [isAuthenticated, Option.isSome_iff_exists, token_new_iff]

/-- The header holds the token that is kept if a header can hold it. -/
theorem authorization_new_iff : (new apiUrl token).authorization = some ("Bearer " ++ text) ↔
    token = some text ∧ trim text.toList ≠ [] ∧ IsHeaderText text := by
  have hcancel : ∀ other : String, "Bearer " ++ other = "Bearer " ++ text ↔ other = text := by
    intro other
    rw [← String.toList_inj, ← String.toList_inj, String.toList_append, String.toList_append,
      List.append_cancel_left_eq]
  rw [authorization, Option.filter_eq_some_iff, Option.map_eq_some_iff, fitsHeader_bearer_iff]
  simp only [hcancel, exists_eq_right]
  rw [token_new_iff, and_assoc]

/-- A provider takes itself to be authenticated exactly if it is given a token that is more than white
space. A request that it sends, for a file or for a listing, bears the token exactly if a header can hold
the token besides, and bears no other. So what the provider says is true of all its requests, unless the
token is more than white space and has a character that no header can hold: then none of them bears it. -/
theorem session_bears_iff (apiUrl : String) (token : Option String)
    (answer : List Request → Except TransportFault Response) (inquiries : List Inquiry) :
    ((new apiUrl token).isAuthenticated = true ↔
        ∃ text, token = some text ∧ trim text.toList ≠ []) ∧
      ∀ q ∈ (new apiUrl token).session answer inquiries,
        (∀ text, q.Bears text ↔ token = some text ∧ trim text.toList ≠ [] ∧ IsHeaderText text) ∧
        (((new apiUrl token).isAuthenticated = true ↔ ∃ text, token = some text ∧ q.Bears text) ↔
          ∀ text, token = some text → trim text.toList ≠ [] → IsHeaderText text) := by
  refine ⟨isAuthenticated_new_iff, fun q hq => ?_⟩
  rw [session_eq, List.mem_filterMap] at hq
  obtain ⟨i, -, hi⟩ := hq
  have hbears : ∀ text, q.Bears text ↔
      token = some text ∧ trim text.toList ≠ [] ∧ IsHeaderText text := fun text =>
    (bears_requested_iff hi text).trans authorization_new_iff
  refine ⟨hbears, ?_⟩
  rw [isAuthenticated_new_iff]
  simp only [hbears]
  cases token with
  | none => simp
  | some text => simp

/-- A token without such characters is in the request for a file and in the one for a listing. -/
theorem session_bears_iff_known : ∃ q q',
    (ofSettings {} (some "ghp_example")).session (fun _ => .ok ⟨404, [], []⟩)
      [.file "acme" "tool" "app.py" "main", .directory "acme" "tool" "src"] = [q, q'] ∧
    q.Bears "ghp_example" ∧ q'.Bears "ghp_example" ∧
    (ofSettings {} (some "ghp_example")).isAuthenticated = true := by
  have htoken : trim "ghp_example".toList ≠ [] ∧ IsHeaderText "ghp_example" := by decide
  obtain ⟨hauthenticated, hbears⟩ := session_bears_iff ({} : RemoteSettings).apiUrl
    (some "ghp_example") (fun _ => .ok ⟨404, [], []⟩)
    [.file "acme" "tool" "app.py" "main", .directory "acme" "tool" "src"]
  have hlength : ((ofSettings {} (some "ghp_example")).session (fun _ => .ok ⟨404, [], []⟩)
      [.file "acme" "tool" "app.py" "main", .directory "acme" "tool" "src"]).length = 2 := by
    decide +kernel
  obtain ⟨q, q', hsession⟩ := List.length_eq_two.1 hlength
  refine ⟨q, q', hsession, ?_, ?_, hauthenticated.2 ⟨_, rfl, htoken.1⟩⟩
  · exact ((hbears q (hsession ▸ List.mem_cons_self)).1 _).2 ⟨rfl, htoken⟩
  · exact ((hbears q' (hsession ▸ by simp)).1 _).2 ⟨rfl, htoken⟩

/-- A token that a line break ends is kept, and then is in no request. -/
theorem session_line_break : ∃ q,
    (ofSettings {} (some "ghp_example\n")).session (fun _ => .ok ⟨404, [], []⟩)
      [.file "acme" "tool" "app.py" "main"] = [q] ∧
    (ofSettings {} (some "ghp_example\n")).isAuthenticated = true ∧
    q.authorization = none ∧ ¬ ∃ text, some "ghp_example\n" = some text ∧ q.Bears text := by
  generalize hsession : (ofSettings {} (some "ghp_example\n")).session (fun _ => .ok ⟨404, [], []⟩)
    [.file "acme" "tool" "app.py" "main"] = requests
  have hone : requests.length = 1 ∧ ∀ q ∈ requests, q.authorization = none := by
    rw [← hsession]
    decide +kernel
  obtain ⟨q, rfl⟩ := List.length_eq_one_iff.1 hone.1
  have hnone : q.authorization = none := hone.2 q List.mem_cons_self
  refine ⟨q, rfl, by decide, hnone, ?_⟩
  rintro ⟨text, -, hbears⟩
  rw [Request.Bears, hnone] at hbears
  cases hbears

end Remote

end SourceAudit
