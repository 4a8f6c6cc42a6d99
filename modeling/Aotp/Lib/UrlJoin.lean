import Aotp.Lib.Paths
import Aotp.Lib.Urls

/-!
# Relative references

`urllib.parse.urljoin`, over the parts of a URL.

* `urlparse`, `urlunparse` — taking a URL apart with the parameters of its path, and putting it
  together again.
* `urljoin` — a reference read against a base.
* `urlsplit_located` — the scheme and the network location of a text are split off again, whatever
  follows them.
* `urlsplit_urljoin` — **a reference without scheme and network location stays on the server of its
  base**.
* `urlsplit_append` — so does a URL with more behind it.
* `mem_splitOnSep_append_iff` — which components of a path come from its end.
-/

namespace PyData

/-! ### Schemes -/

/-- Source: `urllib.parse.uses_relative` -/
def usesRelative : List String :=
  ["", "ftp", "http", "gopher", "nntp", "imap", "wais", "file", "https", "shttp", "mms", "prospero",
    "rtsp", "rtsps", "rtspu", "sftp", "svn", "svn+ssh", "ws", "wss"]

/-- Source: `urllib.parse.uses_netloc` -/
def usesNetloc : List String :=
  ["", "ftp", "http", "gopher", "nntp", "telnet", "imap", "wais", "file", "mms", "https", "shttp",
    "snews", "prospero", "rtsp", "rtsps", "rtspu", "rsync", "svn", "svn+ssh", "sftp", "nfs", "git",
    "git+ssh", "ws", "wss"]

/-- Source: `urllib.parse.uses_params` -/
def usesParams : List String :=
  ["", "ftp", "hdl", "prospero", "http", "imap", "https", "shttp", "rtsp", "rtsps", "rtspu", "sip",
    "sips", "mms", "sftp", "tel"]

/-! ### Taking apart and putting together -/

/-- Source: `urllib.parse.ParseResult` -/
structure ParseResult extends SplitResult where
  params : List Char

/-- The parameters of the last segment of a path.
Source: `urllib.parse._splitparams` -/
def splitParams (path : List Char) : List Char × List Char :=
  let last := afterLast '/' path
  let front := path.take (path.length - last.length)
  if last.contains ';' then (front ++ before ';' last, after ';' last) else (path, [])

/-- `scheme` is that of a URL without one of its own.
Source: `urllib.parse.urlparse` -/
def urlparse (lib : HostLibrary) (url scheme : String) : Except Exc ParseResult := do
  let parts ← urlsplit lib url
  let ownScheme := if parts.scheme = "" then scheme else parts.scheme
  let (path, params) :=
    if usesParams.contains ownScheme && parts.path.contains ';' then splitParams parts.path
    else (parts.path, [])
  pure { parts with scheme := ownScheme, path := path, params := params }

/-- Source: `urllib.parse.urlunsplit` -/
def urlunsplit (parts : SplitResult) : List Char :=
  let rooted :=
    if parts.path ≠ [] ∧ parts.path.head? ≠ some '/' then '/' :: parts.path else parts.path
  let located :=
    if parts.netloc ≠ [] ∨ (parts.scheme ≠ "" ∧ usesNetloc.contains parts.scheme = true) ∨
        "//".toList.isPrefixOf parts.path = true then '/' :: '/' :: (parts.netloc ++ rooted)
    else parts.path
  let named := if parts.scheme ≠ "" then parts.scheme.toList ++ ':' :: located else located
  let queried := if parts.query ≠ [] then named ++ '?' :: parts.query else named
  if parts.fragment ≠ [] then queried ++ '#' :: parts.fragment else queried

/-- Source: `urllib.parse.urlunparse` -/
def urlunparse (parts : ParseResult) : String :=
  let path := if parts.params ≠ [] then parts.path ++ ';' :: parts.params else parts.path
  String.ofList (urlunsplit { parts.toSplitResult with path := path })

/-! ### Joining -/

/-- `segments[1:-1] = filter(None, segments[1:-1])`. -/
def filterInner : List (List Char) → List (List Char)
  | [] => []
  | first :: rest => first :: (rest.dropLast.filter (· ≠ []) ++ rest.drop (rest.length - 1))

/-- The segments that are resolved.
Source: `urllib.parse.urljoin`, `segments` -/
def joinedSegments (basePath path : List Char) : List (List Char) :=
  if path.head? = some '/' then splitOnSep '/' path
  else
    let baseParts := splitOnSep '/' basePath
    let directories := if baseParts.getLast? = some [] then baseParts else baseParts.dropLast
    filterInner (directories ++ splitOnSep '/' path)

/-- One segment more.
Source: `urllib.parse.urljoin`, the loop -/
def resolveSegment (resolved : List (List Char)) (segment : List Char) : List (List Char) :=
  if segment = "..".toList then resolved.dropLast
  else if segment = ".".toList then resolved
  else resolved ++ [segment]

/-- Source: `urllib.parse.urljoin`, `resolved_path` -/
def resolvePath (basePath path : List Char) : List Char :=
  let segments := joinedSegments basePath path
  let resolved := segments.foldl resolveSegment []
  let closed :=
    if segments.getLast? = some ".".toList ∨ segments.getLast? = some "..".toList then
      resolved ++ [[]]
    else resolved
  let text := List.intercalate ['/'] closed
  if text = [] then ['/'] else text

/-- Source: `urllib.parse.urljoin` -/
def urljoin (lib : HostLibrary) (base url : String) : Except Exc String :=
  if base = "" then pure url
  else if url = "" then pure base
  else do
    let b ← urlparse lib base ""
    let u ← urlparse lib url b.scheme
    if u.scheme ≠ b.scheme ∨ usesRelative.contains u.scheme = false then pure url
    else if usesNetloc.contains u.scheme = true ∧ u.netloc ≠ [] then pure (urlunparse u)
    else
      let netloc := if usesNetloc.contains u.scheme then b.netloc else u.netloc
      if u.path = [] ∧ u.params = [] then
        let query := if u.query = [] then b.query else u.query
        pure (urlunparse
          { u with netloc := netloc, path := b.path, params := b.params, query := query })
      else pure (urlunparse { u with netloc := netloc, path := resolvePath b.path u.path })

variable {lib : HostLibrary} {scheme netloc rest : List Char} {url base : String}
  {parts baseParts : SplitResult}

/-! ### Locations are split off again -/

/-- What follows a network location: nothing, or a character that ends it. -/
def Follows (rest : List Char) : Prop := ∀ c ∈ rest.head?, c ∈ locationEnds

theorem Follows.append {more : List Char} (hrest : Follows rest) (hmore : Follows more) :
    Follows (rest ++ more) := by
  cases rest with
  | nil => exact hmore
  | cons c rest => exact hrest

theorem takeWhile_location (hends : ∀ c ∈ netloc, c ∉ locationEnds) (hrest : Follows rest) :
    (netloc ++ rest).takeWhile (fun c => !locationEnds.contains c) = netloc := by
  have hall : ∀ c ∈ netloc, (!locationEnds.contains c) = true := by
    intro c hc
    simpa using hends c hc
  rw [List.takeWhile_append_of_pos hall]
  cases rest with
  | nil => exact List.append_nil _
  | cons c rest =>
    have hend : locationEnds.contains c = true := by simpa using hrest c rfl
    rw [List.takeWhile_cons_of_neg (by rw [hend]; decide), List.append_nil]

theorem splitNetloc_located (hends : ∀ c ∈ netloc, c ∉ locationEnds) (hrest : Follows rest) :
    (splitNetloc ('/' :: '/' :: (netloc ++ rest))).1 = netloc := by
  unfold splitNetloc
  exact takeWhile_location hends hrest

/-- The first character of what follows is kept. -/
theorem follows_filter (hrest : Follows rest) :
    Follows (rest.filter fun c => !unsafeChars.contains c) := by
  cases rest with
  | nil => exact hrest
  | cons c rest =>
    have hkept : (!unsafeChars.contains c) = true := by
      have hend := hrest c rfl
      simp only [locationEnds, List.mem_cons, List.not_mem_nil, or_false] at hend
      rcases hend with rfl | rfl | rfl <;> decide
    intro x hx
    rw [List.filter_cons, if_pos hkept] at hx
    cases hx
    exact hrest c rfl

/-- The text that is split, where what follows the location may hold anything. -/
theorem cleaned_located (hscheme : PlainScheme scheme) (hsafe : ∀ c ∈ netloc, c ∉ unsafeChars) :
    cleaned (scheme ++ ':' :: '/' :: '/' :: (netloc ++ rest)) =
      scheme ++ ':' :: '/' :: '/' :: (netloc ++ rest.filter fun c => !unsafeChars.contains c) := by
  have hplain := cleaned_plain hscheme hsafe
  have hfirst : scheme ++ ':' :: '/' :: '/' :: (netloc ++ rest) =
      (scheme ++ ':' :: '/' :: '/' :: netloc) ++ rest := by simp
  have hkept : (scheme ++ ':' :: '/' :: '/' :: netloc).dropWhile isControlOrSpace ≠ [] := by
    intro hnil
    unfold cleaned at hplain
    rw [hnil] at hplain
    exact absurd hplain (by simp)
  unfold cleaned at hplain ⊢
  rw [hfirst, List.dropWhile_append, if_neg (by simpa using hkept), List.filter_append, hplain]
  simp

/-- **The scheme and the network location are split off again**, whatever follows them. -/
theorem urlsplit_located (hurl : url.toList = scheme ++ ':' :: '/' :: '/' :: (netloc ++ rest))
    (hscheme : PlainScheme scheme) (hnetloc : PlainLocation lib netloc) (hrest : Follows rest)
    (hbrackets : checkBrackets lib netloc = .ok ()) :
    ∃ parts, urlsplit lib url = .ok parts ∧ parts.scheme = String.ofList scheme ∧
      parts.netloc = netloc := by
  have hsplit := splitNetloc_located hnetloc.ends (follows_filter hrest)
  unfold urlsplit
  rw [hurl, cleaned_located hscheme hnetloc.safe, splitScheme_plain hscheme]
  simp only [hsplit, hbrackets, checkNetloc_plain hnetloc.plain]
  exact ⟨_, rfl, rfl, rfl⟩

/-! ### What is put together -/

/-- A URL with a scheme and a network location is put together with both in front. -/
theorem urlunsplit_located (hscheme : parts.scheme ≠ "") (hnetloc : parts.netloc ≠ []) :
    ∃ rest, urlunsplit parts = parts.scheme.toList ++ ':' :: '/' :: '/' :: (parts.netloc ++ rest) ∧
      Follows rest := by
  let rooted := if parts.path ≠ [] ∧ parts.path.head? ≠ some '/' then '/' :: parts.path else parts.path
  let query := if parts.query ≠ [] then '?' :: parts.query else []
  let fragment := if parts.fragment ≠ [] then '#' :: parts.fragment else []
  have hrooted : Follows rooted := by
    intro c hc
    unfold rooted at hc
    split at hc
    · cases hc
      decide
    · rename_i hplain
      rw [not_and_or, not_not, not_not] at hplain
      rcases hplain with hnil | hhead
      · rw [hnil] at hc
        cases hc
      · obtain rfl : '/' = c := Option.some.inj (hhead.symm.trans hc)
        decide
  have hquery : Follows query := by
    intro c hc
    unfold query at hc
    split at hc
    · cases hc
      decide
    · cases hc
  have hfragment : Follows fragment := by
    intro c hc
    unfold fragment at hc
    split at hc
    · cases hc
      decide
    · cases hc
  refine ⟨rooted ++ (query ++ fragment), ?_, hrooted.append (hquery.append hfragment)⟩
  unfold urlunsplit query fragment
  simp only [if_pos (Or.inl hnetloc : parts.netloc ≠ [] ∨ _), if_pos hscheme]
  by_cases hq : parts.query = [] <;> by_cases hf : parts.fragment = [] <;> simp [hq, hf, rooted]

/-- What `urlparse` reads is what `urlsplit` does, but for the parameters and the scheme of a URL
without one. -/
theorem urlparse_of_urlsplit (h : urlsplit lib url = .ok parts) (own : String) :
    ∃ parsed, urlparse lib url own = .ok parsed ∧ parsed.netloc = parts.netloc ∧
      parsed.scheme = if parts.scheme = "" then own else parts.scheme := by
  unfold urlparse
  rw [h]
  exact ⟨_, rfl, rfl, rfl⟩

theorem ne_empty_of_plain {text : String} (htext : text = String.ofList scheme)
    (hscheme : PlainScheme scheme) : text ≠ "" := by
  intro hempty
  have hchars := congrArg String.toList (htext.symm.trans hempty)
  rw [String.toList_ofList] at hchars
  exact hscheme.ne_nil hchars

/-- **What is put together is split into the same scheme and network location.** -/
theorem urlsplit_urlunparse {parsed : ParseResult} (hparsed : parsed.scheme = String.ofList scheme)
    (hscheme : PlainScheme scheme) (hnetloc : PlainLocation lib parsed.netloc)
    (hbrackets : checkBrackets lib parsed.netloc = .ok ()) (hne : parsed.netloc ≠ []) :
    ∃ parts, urlsplit lib (urlunparse parsed) = .ok parts ∧ parts.scheme = parsed.scheme ∧
      parts.netloc = parsed.netloc := by
  have hnamed := ne_empty_of_plain hparsed hscheme
  unfold urlunparse
  obtain ⟨rest, htext, hrest⟩ := @urlunsplit_located { parsed.toSplitResult with
    path := if parsed.params ≠ [] then parsed.path ++ ';' :: parsed.params else parsed.path }
    hnamed hne
  have hurl : (String.ofList (urlunsplit { parsed.toSplitResult with
      path := if parsed.params ≠ [] then parsed.path ++ ';' :: parsed.params else parsed.path })).toList =
      scheme ++ ':' :: '/' :: '/' :: (parsed.netloc ++ rest) := by
    rw [String.toList_ofList, htext, hparsed, String.toList_ofList]
  rw [hparsed]
  exact urlsplit_located hurl hscheme hnetloc hrest hbrackets

/-- A URL with a network location is not empty. -/
theorem ne_empty_of_netloc (h : urlsplit lib url = .ok parts) (hne : parts.netloc ≠ []) :
    url ≠ "" := by
  rintro rfl
  have hempty : urlsplit lib "" = .ok ⟨"", [], [], [], []⟩ := rfl
  rw [hempty, Except.ok.injEq] at h
  rw [← h] at hne
  exact hne rfl

section join

variable (hbase : urlsplit lib base = .ok baseParts)
  (hrelative : usesRelative.contains baseParts.scheme = true)
  (hlocated : usesNetloc.contains baseParts.scheme = true) (hne : baseParts.netloc ≠ [])
  (hurl : urlsplit lib url = .ok parts) (hown : parts.scheme = "") (hhere : parts.netloc = [])

include hbase hrelative hlocated hne hurl hown hhere

/-- A reference without scheme and network location is put together with those of its base. -/
theorem urljoin_of_relative (hnamed : baseParts.scheme ≠ "") (htext : url ≠ "") :
    ∃ parsed, urljoin lib base url = .ok (urlunparse parsed) ∧
      parsed.scheme = baseParts.scheme ∧ parsed.netloc = baseParts.netloc := by
  obtain ⟨b, hb, hbNetloc, hbScheme⟩ := urlparse_of_urlsplit hbase ""
  obtain ⟨u, hu, huNetloc, huScheme⟩ := urlparse_of_urlsplit hurl baseParts.scheme
  rw [if_neg hnamed] at hbScheme
  rw [if_pos hown] at huScheme
  rw [hhere] at huNetloc
  unfold urljoin
  rw [if_neg (ne_empty_of_netloc hbase hne), if_neg htext, hb]
  simp only [bind, Except.bind, hu, hbScheme, huScheme, huNetloc, hrelative, hlocated, ne_eq,
    not_true_eq_false, Bool.true_eq_false, or_self, and_false, if_false, if_true]
  -- an empty path is replaced by that of the base, any other is resolved
  split
  · exact ⟨_, rfl, rfl, hbNetloc⟩
  · exact ⟨_, rfl, rfl, hbNetloc⟩

/-- **A reference without scheme and network location stays on the server of its base.** -/
theorem urlsplit_urljoin (hparsed : baseParts.scheme = String.ofList scheme)
    (hscheme : PlainScheme scheme) :
    ∃ joined joinedParts, urljoin lib base url = .ok joined ∧
      urlsplit lib joined = .ok joinedParts ∧ joinedParts.scheme = baseParts.scheme ∧
      joinedParts.netloc = baseParts.netloc := by
  by_cases htext : url = ""
  · have hjoin : urljoin lib base url = .ok base := by
      unfold urljoin
      rw [if_neg (ne_empty_of_netloc hbase hne), if_pos htext]
      rfl
    exact ⟨base, baseParts, hjoin, hbase, rfl, rfl⟩
  · obtain ⟨parsed, hjoin, hs, hn⟩ :=
      urljoin_of_relative hbase hrelative hlocated hne hurl hown hhere
        (ne_empty_of_plain hparsed hscheme) htext
    obtain ⟨hnetloc, hbrackets⟩ := location_of_urlsplit hbase
    rw [← hn] at hnetloc hbrackets hne
    obtain ⟨joinedParts, hsplit, hjs, hjn⟩ :=
      urlsplit_urlunparse (hs.trans hparsed) hscheme hnetloc hbrackets hne
    exact ⟨_, joinedParts, hjoin, hsplit, hjs.trans hs, hjn.trans hn⟩

end join

/-! ### What stands behind a URL -/

section append

variable {c : Char} {s t u : List Char}

theorem before_append_of_mem (h : c ∈ s) (t : List Char) : before c (s ++ t) = before c s := by
  induction s with
  | nil => cases h
  | cons x s ih =>
    unfold before at ih ⊢
    rw [List.cons_append, List.takeWhile_cons, List.takeWhile_cons]
    by_cases hx : x = c
    · simp [hx]
    · have hmem : c ∈ s := (List.mem_cons.mp h).resolve_left fun heq => hx heq.symm
      rw [ih hmem]

theorem after_append_of_mem (h : c ∈ s) (t : List Char) : after c (s ++ t) = after c s ++ t := by
  induction s with
  | nil => cases h
  | cons x s ih =>
    unfold after at ih ⊢
    rw [List.cons_append, List.dropWhile_cons, List.dropWhile_cons]
    by_cases hx : x = c
    · simp [hx]
    · have hmem : c ∈ s := (List.mem_cons.mp h).resolve_left fun heq => hx heq.symm
      rw [if_pos (bne_iff_ne.mpr hx), if_pos (bne_iff_ne.mpr hx), ih hmem]

/-- A scheme is split off whatever follows. -/
theorem splitScheme_append (h : (splitScheme u).1 ≠ "") (t : List Char) :
    splitScheme (u ++ t) = ((splitScheme u).1, (splitScheme u).2 ++ t) := by
  unfold splitScheme at h ⊢
  split at h
  · rename_i hscheme
    have hcolon : ':' ∈ u := by
      unfold hasScheme at hscheme
      simp only [Bool.and_eq_true, List.contains_iff_mem] at hscheme
      exact hscheme.1.1
    have hscheme' : hasScheme (u ++ t) = true := by
      unfold hasScheme at hscheme ⊢
      rw [before_append_of_mem hcolon]
      simp only [Bool.and_eq_true, List.contains_iff_mem] at hscheme ⊢
      exact ⟨⟨List.mem_append_left t hcolon, hscheme.1.2⟩, hscheme.2⟩
    rw [if_pos hscheme', if_pos hscheme, before_append_of_mem hcolon, after_append_of_mem hcolon]
  · exact absurd rfl h

/-- A network location is split off where what follows it does not continue it. -/
theorem splitNetloc_append (h : (splitNetloc u).1 ≠ []) (ht : Follows t) :
    (splitNetloc (u ++ t)).1 = (splitNetloc u).1 := by
  unfold splitNetloc at h ⊢
  split at h
  · rename_i rest
    have hrest : Follows (rest.dropWhile fun c => !locationEnds.contains c) := by
      intro c hc
      have hend := List.head?_dropWhile_not (fun c => !locationEnds.contains c) rest
      rw [hc] at hend
      simpa using hend
    have hends : ∀ c ∈ rest.takeWhile (fun c => !locationEnds.contains c), c ∉ locationEnds := by
      intro c hc
      simpa using List.mem_takeWhile_imp hc
    have hsplit := takeWhile_location hends (hrest.append ht)
    rw [← List.append_assoc, List.takeWhile_append_dropWhile] at hsplit
    exact hsplit
  · exact absurd rfl h

theorem cleaned_append (h : cleaned u ≠ []) (t : List Char) :
    cleaned (u ++ t) = cleaned u ++ t.filter fun c => !unsafeChars.contains c := by
  have hkept : u.dropWhile isControlOrSpace ≠ [] := by
    intro hnil
    unfold cleaned at h
    rw [hnil] at h
    exact h rfl
  unfold cleaned
  rw [List.dropWhile_append, if_neg (by simpa using hkept), List.filter_append]

/-- **What stands behind a URL leaves its server alone**, where it does not continue the network
location. -/
theorem urlsplit_append (h : urlsplit lib base = .ok parts) (hnamed : parts.scheme ≠ "")
    (hne : parts.netloc ≠ []) (ht : Follows t) (hurl : url.toList = base.toList ++ t) :
    ∃ parts', urlsplit lib url = .ok parts' ∧ parts'.scheme = parts.scheme ∧
      parts'.netloc = parts.netloc := by
  obtain ⟨hnetloc, hbrackets⟩ := location_of_urlsplit h
  unfold urlsplit at h
  simp only [bind_eq_ok] at h
  obtain ⟨⟨⟩, -, ⟨⟩, -, hparts⟩ := h
  cases hparts
  have hcleaned : cleaned base.toList ≠ [] := by
    intro hnil
    rw [hnil] at hnamed
    exact hnamed rfl
  unfold urlsplit
  rw [hurl, cleaned_append hcleaned, splitScheme_append hnamed]
  simp only [splitNetloc_append hne (follows_filter ht), hbrackets, checkNetloc_plain hnetloc.plain]
  exact ⟨_, rfl, rfl, rfl⟩

end append

/-! ### The components of a path -/

section components

variable {α : Type} [DecidableEq α] {sep x : α} {l m h part : List α} {t : List (List α)}

/-- The last component of one text and the first of another make up one of the two together. -/
theorem splitOnSep_append_eq (hm : splitOnSep sep m = h :: t) (l : List α) :
    ∃ init last, splitOnSep sep l = init ++ [last] ∧
      splitOnSep sep (l ++ m) = init ++ (last ++ h) :: t := by
  induction l with
  | nil => exact ⟨[], [], rfl, hm⟩
  | cons c l ih =>
    obtain ⟨init, last, hl, hlm⟩ := ih
    by_cases hc : c = sep
    · refine ⟨[] :: init, last, ?_, ?_⟩
      · rw [hc, splitOnSep_cons_sep, hl, List.cons_append]
      · rw [hc, List.cons_append, splitOnSep_cons_sep, hlm, List.cons_append]
    · rw [List.cons_append, splitOnSep, splitOnSep, hl, hlm]
      cases init with
      | nil => exact ⟨[], c :: last, by simp [hc], by simp [hc]⟩
      | cons first init => exact ⟨(c :: first) :: init, last, by simp [hc], by simp [hc]⟩

/-- The first component begins with what the text begins with. -/
theorem splitOnSep_cons_eq (hx : x ≠ sep) (m : List α) :
    ∃ h t, splitOnSep sep (x :: m) = (x :: h) :: t := by
  rw [splitOnSep]
  cases hm : splitOnSep sep m with
  | nil => exact absurd hm (splitOnSep_ne_nil sep m)
  | cons h t => exact ⟨h, t, by simp [hx]⟩

/-- **A component of a whole text** that is none of its front is one of what follows, where that begins
with a character the component does not hold. -/
theorem mem_splitOnSep_append_iff (hx : x ≠ sep) (hpart : x ∉ part) (hl : part ∉ splitOnSep sep l) :
    part ∈ splitOnSep sep (l ++ x :: m) ↔ part ∈ splitOnSep sep (x :: m) := by
  obtain ⟨h, t, hm⟩ := splitOnSep_cons_eq hx m
  obtain ⟨init, last, hfront, hwhole⟩ := splitOnSep_append_eq hm l
  rw [hfront, List.mem_append, not_or] at hl
  have hjoint : part ≠ last ++ x :: h := by
    intro heq
    apply hpart
    rw [heq]
    simp
  have hfirst : part ≠ x :: h := by
    intro heq
    apply hpart
    rw [heq]
    simp
  rw [hwhole, hm]
  simp [hl.1, hjoint, hfirst]

/-- Leaving out characters other than the separator leaves them out of each component. -/
theorem splitOnSep_filter {p : α → Bool} (hsep : p sep = true) (l : List α) :
    splitOnSep sep (l.filter p) = (splitOnSep sep l).map (List.filter p) := by
  induction l with
  | nil => rfl
  | cons c l ih =>
    cases hl : splitOnSep sep l with
    | nil => exact absurd hl (splitOnSep_ne_nil sep l)
    | cons first rest =>
      rw [hl, List.map_cons] at ih
      by_cases hc : c = sep
      · rw [hc, List.filter_cons, if_pos hsep, splitOnSep_cons_sep, splitOnSep_cons_sep, ih, hl]
        rfl
      · by_cases hp : p c = true
        · rw [List.filter_cons, if_pos hp, splitOnSep, splitOnSep, ih, hl]
          simp [hc, hp]
        · rw [List.filter_cons, if_neg hp, ih, splitOnSep, hl]
          simp [hc, hp]

end components

/-- The part of a text before some characters, where others are left out. -/
theorem takeWhile_filter {α : Type} {p q : α → Bool} (hpq : ∀ a, p a = false → q a = true) (l : List α) :
    (l.filter q).takeWhile p = (l.takeWhile p).filter q := by
  induction l with
  | nil => rfl
  | cons a l ih =>
    by_cases hp : p a = true
    · by_cases hq : q a = true
      · simp [hp, hq, ih]
      · simp [hp, hq, ih]
    · have hq := hpq a (by simpa using hp)
      simp [hp, hq]

end PyData
