import SourceAudit.Proofs.Url.Path

/-!
# Addresses of servers and targets of requests

What follows a slash after the address of a server is read as a path, a query and a fragment of a URL
of that server (`Server.parseKnown_append`). A request asks for the path and the query, in which a
server finds the segments and the fields again (`targetNames_target`, `targetFields_target`).
-/

namespace SourceAudit

open Text Utf8

namespace Url

variable {scheme authority s t : List Char} {c : Char}

/-- The address of a web server: the scheme, two slashes and the authority, with the URL that it is
read as. -/
structure Server where
  scheme : List Char
  authority : List Char
  url : Url
  web : scheme = "http".toList ∨ scheme = "https".toList
  plain : ∀ c ∈ authority, 0x20 < c.toNat ∧ endsAuthority c = false
  read : parseKnown (scheme ++ "://".toList ++ authority) = .ok url

namespace Server

/-- The text of the address. -/
def text (server : Server) : List Char :=
  server.scheme ++ "://".toList ++ server.authority

/-- Nothing in an address is dropped. -/
theorem lt_of_mem_text (server : Server) (hc : c ∈ server.text) : 0x20 < c.toNat := by
  have hscheme : ∀ c ∈ server.scheme ++ "://".toList, 0x20 < c.toNat := by
    rcases server.web with h | h <;> rw [h] <;> decide
  rcases List.mem_append.1 hc with hc | hc
  · exact hscheme c hc
  · exact (server.plain c hc).1

theorem text_ne_nil (server : Server) : server.text ≠ [] := by
  rw [text]
  rcases server.web with h | h <;> rw [h] <;> exact List.cons_ne_nil _ _

/-- What follows an address is cleaned as the end of the text. -/
theorem clean_append (server : Server) {t : List Char}
    (ht : dropEndWhile (fun c => c.toNat ≤ 0x20) (server.text ++ t) =
      server.text ++ dropEndWhile (fun c => c.toNat ≤ 0x20) t) :
    clean (server.text ++ t) = server.text ++ tidy t := by
  have hstart : (server.text ++ t).dropWhile (fun c => c.toNat ≤ 0x20) = server.text ++ t := by
    obtain ⟨c, rest, htext⟩ := List.exists_cons_of_ne_nil server.text_ne_nil
    have hc := server.lt_of_mem_text (htext ▸ List.mem_cons_self)
    rw [htext, List.cons_append, List.dropWhile_cons_of_neg (by simpa using hc)]
  have hfilter : (server.text.filter fun c => c ∉ ['\t', '\n', '\r']) = server.text := by
    refine List.filter_eq_self.2 fun c hc => decide_eq_true fun hmem => ?_
    have hle : ∀ d ∈ ['\t', '\n', '\r'], d.toNat ≤ 0x20 := by decide
    exact Nat.not_le.2 (server.lt_of_mem_text hc) (hle c hmem)
  rw [clean, trimWhile, hstart, ht, List.filter_append, hfilter, tidy]

theorem cutScheme?_append (server : Server) (t : List Char) :
    cutScheme? (server.text ++ t) = some (server.scheme, '/' :: '/' :: (server.authority ++ t)) := by
  rw [text]
  rcases server.web with h | h <;> rw [h] <;> rfl

end Server

/-- The URL of an authority, without a path. -/
def ofAuthority (scheme : String) (authority : List Char) : Except Fault Url :=
  let (user, place) := cutUser authority
  let (host, port) := cutHost false place
  if host.isEmpty then .error .emptyHost
  else
    match host? host with
    | .error e => .error e
    | .ok host =>
      match port? scheme port.tail with
      | .error e => .error e
      | .ok port => .ok { scheme, user := encodeUser (user.getD []), host, port, segments := [[]] }

/-- The authority is read first, and the rest is read after it. -/
theorem parseHosted_eq (scheme : String) (rest : List Char) : parseHosted scheme rest =
    (ofAuthority scheme ((rest.dropWhile isSlash).takeWhile fun c => !endsAuthority c)).map
      (·.withTail ((rest.dropWhile isSlash).dropWhile fun c => !endsAuthority c)) := by
  -- Path, query and fragment are read last, and nothing of them can be refused.
  rw [parseHosted, ofAuthority]
  dsimp only
  generalize (rest.dropWhile isSlash).takeWhile (fun c => !endsAuthority c) = authority
  rcases cutUser authority with ⟨user, place⟩
  rcases cutHost false place with ⟨host, port⟩
  dsimp only
  split_ifs
  · rfl
  · rcases host? host with e | host
    · rfl
    · rcases port? scheme port.tail with e | port <;> rfl

/-- No host is empty. -/
theorem host?_ne_nil {text host : List Char} (h : host? text = .ok host) : host ≠ [] := by
  unfold host? at h
  split at h
  · split_ifs at h
    split at h <;> cases h
    exact List.cons_ne_nil _ _
  · split at h
    · cases h
    · cases h
    · rename_i hdomain _
      split_ifs at h
      · split at h <;> cases h
        rw [address4Text, List.map_cons, List.map_cons, joinWith_cons_cons]
        simp
      · cases h
        rintro rfl
        exact hdomain rfl

theorem ofAuthority_ok {scheme : String} {u : Url} (h : ofAuthority scheme authority = .ok u) :
    u.scheme = scheme ∧ u.host ≠ [] := by
  rw [ofAuthority] at h
  dsimp only at h
  split_ifs at h
  split at h
  · cases h
  · rename_i hhost
    split at h <;> cases h
    exact ⟨rfl, host?_ne_nil hhost⟩

/-- What follows an authority is read after it. -/
theorem parseHosted_append (scheme : String) (hne : authority ≠ [])
    (h : ∀ c ∈ authority, endsAuthority c = false) (ht : ∀ c ∈ t.head?, endsAuthority c = true) :
    parseHosted scheme ('/' :: '/' :: (authority ++ t)) =
      (ofAuthority scheme authority).map (·.withTail t) := by
  have hstart : ('/' :: '/' :: (authority ++ t)).dropWhile isSlash = authority ++ t := by
    obtain ⟨c, rest, rfl⟩ := List.exists_cons_of_ne_nil hne
    have hc := h c List.mem_cons_self
    rw [endsAuthority, Bool.or_eq_false_iff, Bool.or_eq_false_iff] at hc
    rw [List.dropWhile_cons_of_pos rfl, List.dropWhile_cons_of_pos rfl, List.cons_append,
      List.dropWhile_cons_of_neg (by simp [hc.1.1])]
  have hall : ∀ c ∈ authority, (!endsAuthority c) = true := fun c hc => by simp [h c hc]
  have htake : t.takeWhile (fun c => !endsAuthority c) = [] := by
    rcases t with _ | ⟨c, rest⟩
    · rfl
    · exact List.takeWhile_cons_of_neg (by simp [ht c rfl])
  have hdrop : t.dropWhile (fun c => !endsAuthority c) = t := by
    rcases t with _ | ⟨c, rest⟩
    · rfl
    · exact List.dropWhile_cons_of_neg (by simp [ht c rfl])
  rw [parseHosted_eq, hstart, List.takeWhile_append_of_pos hall, List.dropWhile_append_of_pos hall,
    htake, hdrop, List.append_nil]

namespace Server

/-- An address is read as one of a host, with what follows it. -/
theorem parseKnown_eq (server : Server) (h : clean (server.text ++ s) = server.text ++ t) :
    parseKnown (server.text ++ s) =
      parseHosted (String.ofList server.scheme) ('/' :: '/' :: (server.authority ++ t)) := by
  have hport : (usualPort? (String.ofList server.scheme)).isSome = true := by
    rcases server.web with h | h <;> rw [h] <;> decide
  rw [parseKnown, h, cutScheme?_append]
  dsimp only
  rw [if_pos hport]

/-- The URL of an address is that of its authority. -/
theorem exists_ofAuthority (server : Server) : server.authority ≠ [] ∧ ∃ base,
    ofAuthority (String.ofList server.scheme) server.authority = .ok base ∧
      server.url = base.withTail [] := by
  have hclean : clean (server.text ++ []) = server.text ++ [] := by
    refine server.clean_append ?_
    have hall : ∀ c ∈ server.text, decide (c.toNat ≤ 0x20) = false :=
      fun c hc => by simpa using server.lt_of_mem_text hc
    rw [List.append_nil, dropEndWhile_eq_self hall]
    exact (List.append_nil _).symm
  have hread := (server.parseKnown_eq hclean).symm.trans
    ((congrArg parseKnown (List.append_nil _)).trans server.read)
  -- An address without an authority would not have been read.
  have hne : server.authority ≠ [] := by
    intro hnil
    rw [hnil] at hread
    cases hread
  rw [parseHosted_append _ hne (fun c hc => (server.plain c hc).2) (by simp)] at hread
  rcases hbase : ofAuthority (String.ofList server.scheme) server.authority with e | base
  · rw [hbase] at hread
    cases hread
  · rw [hbase] at hread
    exact ⟨hne, base, rfl, (Except.ok.inj hread).symm⟩

/-- The URL of a text that starts with the address of a server. -/
theorem parseKnown_append (server : Server) (t : List Char) :
    parseKnown (server.text ++ '/' :: t) = .ok (server.url.withTail ('/' :: tidy t)) := by
  obtain ⟨hne, base, hbase, hurl⟩ := server.exists_ofAuthority
  have hkeep : ∀ s, dropEndWhile (fun c => c.toNat ≤ 0x20) (s ++ '/' :: t) =
      s ++ '/' :: dropEndWhile (fun c => c.toNat ≤ 0x20) t :=
    fun s => dropEndWhile_append_cons (by decide) s t
  have hclean : clean (server.text ++ '/' :: t) = server.text ++ '/' :: tidy t := by
    have htidy : tidy ('/' :: t) = '/' :: tidy t := by
      rw [tidy, ← List.nil_append ('/' :: t), hkeep, List.nil_append,
        List.filter_cons_of_pos (by decide), tidy]
    rw [← htidy]
    exact server.clean_append ((hkeep _).trans (congrArg (server.text ++ ·) (hkeep []).symm))
  rw [server.parseKnown_eq hclean, parseHosted_append _ hne (fun c hc => (server.plain c hc).2)
    (by simp [endsAuthority, isSlash]), hbase, hurl]
  rfl

/-- A server leads to the web, and has a host. -/
theorem url_host_ne_nil (server : Server) : server.url.host ≠ [] := by
  obtain ⟨-, base, hbase, hurl⟩ := server.exists_ofAuthority
  rw [hurl]
  exact (ofAuthority_ok hbase).2

theorem isWeb_url (server : Server) : server.url.isWeb = true := by
  obtain ⟨-, base, hbase, hurl⟩ := server.exists_ofAuthority
  have hscheme : server.url.scheme = String.ofList server.scheme := by
    rw [hurl]
    exact (ofAuthority_ok hbase).1
  rw [isWeb, hscheme]
  rcases server.web with h | h <;> rw [h] <;> decide

end Server

/-! ### Targets -/

/-- The names in the path of what a request asks for. -/
def targetNames (target : List Char) : List (List UInt8) :=
  bytesOf (cut '/' (target.takeWhile (· ≠ '?')).tail)

/-- The fields in the query of what a request asks for. -/
def targetFields (target : List Char) : List (List UInt8 × List UInt8) :=
  formFields (target.dropWhile (· ≠ '?')).tail

variable {u : Url}

/-- The path of a target ends where its query starts. -/
theorem cut_target (h : ∀ s ∈ u.segments, '/' ∉ s ∧ '?' ∉ s) :
    u.target.takeWhile (· ≠ '?') = u.path ∧
      (u.target.dropWhile (· ≠ '?')).tail = u.query.getD [] := by
  have hpath : ∀ c ∈ u.path, decide (c ≠ '?') = true := by
    intro c hc
    refine decide_eq_true ?_
    rcases List.mem_cons.1 hc with rfl | hc
    · decide
    rcases mem_of_mem_joinWith hc with hc | ⟨s, hs, hc⟩
    · rw [List.mem_singleton.1 hc]
      decide
    · rintro rfl
      exact (h s hs).2 hc
  rw [target, List.takeWhile_append_of_pos hpath, List.dropWhile_append_of_pos hpath]
  cases u.query with
  | none => exact ⟨List.append_nil _, rfl⟩
  | some query => simp

/-- The segments of a path are found again in the target. -/
theorem targetNames_target (hne : u.segments ≠ []) (h : ∀ s ∈ u.segments, '/' ∉ s ∧ '?' ∉ s) :
    targetNames u.target = bytesOf u.segments := by
  have hcut : cut '/' (joinWith ['/'] u.segments) = u.segments :=
    cut_joinWith hne fun s hs => (h s hs).1
  rw [targetNames, (cut_target h).1, path, List.tail_cons, hcut]

/-- The fields of a query are found again in the target. -/
theorem targetFields_target (h : ∀ s ∈ u.segments, '/' ∉ s ∧ '?' ∉ s) :
    targetFields u.target = formFields (u.query.getD []) := by
  rw [targetFields, (cut_target h).2]

/-- A field that is added to no query is the query. -/
theorem addFields_none (name value : List Char) :
    addFields none [(name, value)] = some (formEncode name ++ '=' :: formEncode value) :=
  congrArg some (joinWith_singleton _ _)

end Url

end SourceAudit
