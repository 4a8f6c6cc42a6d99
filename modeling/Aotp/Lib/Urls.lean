import Aotp.Lib.Json

/-!
# The parts of a URL

`urllib.parse.urlsplit` and the properties of what it returns, over what they consult of the library.

* `before`, `after`, `afterLast` — `partition` and `rpartition` at one character.
* `urlsplit` — the scheme, the network location, the path, the query and the fragment of a text;
  `SplitResult.hostname`, `SplitResult.port`, `SplitResult.userinfo` read the network location.
* `PlainLocation` — a network location that is split off as it stands.
* `urlsplit_plain` — **the parts of `scheme://location`**; `hostname_plain`, `port_plain` — its host
  and its port.
-/

namespace PyData

/-! ### Partitions -/

/-- `s.partition(c)[0]`. -/
def before (c : Char) (s : List Char) : List Char := s.takeWhile (· != c)

/-- `s.partition(c)[2]`. -/
def after (c : Char) (s : List Char) : List Char := (s.dropWhile (· != c)).drop 1

/-- `s.rpartition(c)[2]`. -/
def afterLast (c : Char) (s : List Char) : List Char := (s.reverse.takeWhile (· != c)).reverse

/-- `s.rpartition(c)[0]`. -/
def beforeLast (c : Char) (s : List Char) : List Char :=
  ((s.reverse.dropWhile (· != c)).drop 1).reverse

/-! ### Splitting -/

/-- What splitting a URL consults: `str.lower`, the characters whose compatibility form holds one of
`/?#@:`, whether `ipaddress.ip_address` reads a text as an IPv6 address, and `repr`. -/
structure HostLibrary where
  lower : String → String
  expands : Char → Bool
  isIPv6 : String → Bool
  repr : String → String

/-- Source: `urllib.parse.SplitResult` -/
structure SplitResult where
  scheme : String
  netloc : List Char
  path : List Char
  query : List Char
  fragment : List Char
  deriving DecidableEq

/-- `c.isascii() and c.isalpha()`. -/
def isAsciiAlpha (c : Char) : Bool := c.isAlpha

/-- Source: `urllib.parse.scheme_chars` -/
def isSchemeChar (c : Char) : Bool := c.isAlphanum || c == '+' || c == '-' || c == '.'

/-- Source: `urllib.parse._WHATWG_C0_CONTROL_OR_SPACE` -/
def isControlOrSpace (c : Char) : Bool := c.toNat ≤ 32

/-- Source: `urllib.parse._UNSAFE_URL_BYTES_TO_REMOVE` -/
def unsafeChars : List Char := ['\t', '\r', '\n']

/-- The characters that end a network location.
Source: `urllib.parse._splitnetloc` -/
def locationEnds : List Char := ['/', '?', '#']

/-- `[a-fA-F0-9]`. -/
def isHexChar (c : Char) : Bool :=
  c.isDigit || ('a' ≤ c && c ≤ 'f') || ('A' ≤ c && c ≤ 'F')

/-- `re.match(r"\Av[a-fA-F0-9]+\..+\Z", host)`, of a text without newlines. -/
def isIPvFuture (host : List Char) : Bool :=
  match host with
  | 'v' :: rest =>
    !(rest.takeWhile isHexChar).isEmpty && (match rest.dropWhile isHexChar with
      | '.' :: tail => !tail.isEmpty
      | _ => false)
  | _ => false

/-- Source: `urllib.parse._check_bracketed_host` -/
def checkBracketedHost (lib : HostLibrary) (host : List Char) : Except Exc Unit :=
  if host.head? = some 'v' then guardE (isIPvFuture host) (.valueError "IPvFuture address is invalid")
  else guardE (lib.isIPv6 (String.ofList host))
    (.valueError (lib.repr (String.ofList host) ++ " does not appear to be an IPv4 or IPv6 address"))

/-- The brackets of a network location.
Source: `urllib.parse.urlsplit`, the checks of `netloc` -/
def checkBrackets (lib : HostLibrary) (netloc : List Char) : Except Exc Unit := do
  guardE (netloc.contains '[' == netloc.contains ']') (.valueError "Invalid IPv6 URL")
  if netloc.contains '[' then checkBracketedHost lib (before ']' (after '[' netloc)) else pure ()

/-- Normalisation acts on these delimiters one character at a time, and leaves ASCII alone.
Source: `urllib.parse._checknetloc` -/
def checkNetloc (lib : HostLibrary) (netloc : List Char) : Except Exc Unit :=
  guardE (netloc.all fun c => !(decide (128 ≤ c.toNat) && lib.expands c))
    (.valueError ("netloc '" ++ String.ofList netloc ++
      "' contains invalid characters under NFKC normalization"))

/-- Whether a text begins with a scheme and a colon.
Source: `urllib.parse.urlsplit`, the loop over `url[:i]` -/
def hasScheme (url : List Char) : Bool :=
  url.contains ':' && (before ':' url).head?.any isAsciiAlpha && (before ':' url).all isSchemeChar

/-- The scheme of a text, and what follows it. -/
def splitScheme (url : List Char) : String × List Char :=
  if hasScheme url then (String.ofList ((before ':' url).map Char.toLower), after ':' url)
  else ("", url)

/-- The network location of a text, and what follows it.
Source: `urllib.parse._splitnetloc` -/
def splitNetloc (url : List Char) : List Char × List Char :=
  match url with
  | '/' :: '/' :: rest =>
    (rest.takeWhile fun c => !locationEnds.contains c, rest.dropWhile fun c => !locationEnds.contains c)
  | _ => ([], url)

/-- The text that is split: control characters and blanks in front of it, and tabulators and line
breaks anywhere, are left out.
Source: `urllib.parse.urlsplit`, `url` -/
def cleaned (url : List Char) : List Char :=
  (url.dropWhile isControlOrSpace).filter fun c => !unsafeChars.contains c

/-- Source: `urllib.parse.urlsplit` -/
def urlsplit (lib : HostLibrary) (url : String) : Except Exc SplitResult := do
  let (scheme, afterScheme) := splitScheme (cleaned url.toList)
  let (netloc, rest) := splitNetloc afterScheme
  checkBrackets lib netloc
  let fragment := if rest.contains '#' then after '#' rest else []
  let unfragmented := if rest.contains '#' then before '#' rest else rest
  let query := if unfragmented.contains '?' then after '?' unfragmented else []
  let path := if unfragmented.contains '?' then before '?' unfragmented else unfragmented
  checkNetloc lib netloc
  pure ⟨scheme, netloc, path, query, fragment⟩

/-! ### The network location -/

/-- `hostname.lower() + percent + zone`. -/
def lowerHost (lib : HostLibrary) (host : List Char) : List Char :=
  (lib.lower (String.ofList (before '%' host))).toList ++ host.dropWhile (· != '%')

/-- The most digits `int` reads. -/
def maxPortDigits : ℕ := 4300

/-- `int(port)`, checked to be a port.
Source: `urllib.parse._NetlocResultMixinBase.port` -/
def readPort (lib : HostLibrary) (port : List Char) : Except Exc ℕ := do
  guardE (port.all Char.isDigit)
    (.valueError ("Port could not be cast to integer value as " ++ lib.repr (String.ofList port)))
  guardE (decide (port.length ≤ maxPortDigits))
    (.valueError ("Exceeds the limit (4300 digits) for integer string conversion: value has " ++
      Nat.repr port.length ++ " digits; use sys.set_int_max_str_digits() to increase the limit"))
  guardE (decide (Nat.ofDigitChars 10 port 0 ≤ 65535)) (.valueError "Port out of range 0-65535")
  pure (Nat.ofDigitChars 10 port 0)

namespace SplitResult

variable (lib : HostLibrary) (parts : SplitResult)

/-- What follows the user information.
Source: `urllib.parse._NetlocResultMixinStr._hostinfo`, `hostinfo` -/
def hostinfo : List Char := afterLast '@' parts.netloc

/-- Source: `urllib.parse._NetlocResultMixinStr._hostinfo`, `hostname` -/
def rawHost : List Char :=
  if parts.hostinfo.contains '[' then before ']' (after '[' parts.hostinfo)
  else before ':' parts.hostinfo

/-- Source: `urllib.parse._NetlocResultMixinStr._hostinfo`, `port` -/
def rawPort : List Char :=
  if parts.hostinfo.contains '[' then after ':' (after ']' (after '[' parts.hostinfo))
  else after ':' parts.hostinfo

/-- Source: `urllib.parse._NetlocResultMixinBase.hostname` -/
def hostname : Option String :=
  if parts.rawHost = [] then none else some (String.ofList (lowerHost lib parts.rawHost))

/-- Source: `urllib.parse._NetlocResultMixinBase.port` -/
def port : Except Exc (Option ℕ) :=
  if parts.rawPort = [] then pure none else do
    let n ← readPort lib parts.rawPort
    pure (some n)

/-- Source: `urllib.parse._NetlocResultMixinBase.username` -/
def username : Option String :=
  if parts.netloc.contains '@' then some (String.ofList (before ':' (beforeLast '@' parts.netloc)))
  else none

/-- Source: `urllib.parse._NetlocResultMixinBase.password` -/
def password : Option String :=
  if parts.netloc.contains '@' && (beforeLast '@' parts.netloc).contains ':' then
    some (String.ofList (after ':' (beforeLast '@' parts.netloc)))
  else none

end SplitResult

/-! ### Partitions of what is put together -/

section partition

variable {c x : Char} {s t : List Char}

theorem bne_of_not_mem (h : c ∉ s) : ∀ x ∈ s, (x != c) = true := by
  intro x hx
  rw [bne_iff_ne]
  rintro rfl
  exact h hx

theorem before_append (h : c ∉ s) (t : List Char) : before c (s ++ c :: t) = s := by
  unfold before
  rw [List.takeWhile_append_of_pos (bne_of_not_mem h)]
  simp

theorem after_append (h : c ∉ s) (t : List Char) : after c (s ++ c :: t) = t := by
  unfold after
  rw [List.dropWhile_append_of_pos (bne_of_not_mem h)]
  simp

theorem before_of_not_mem (h : c ∉ s) : before c s = s :=
  List.takeWhile_eq_self_iff.mpr (bne_of_not_mem h)

theorem after_of_not_mem (h : c ∉ s) : after c s = [] := by
  unfold after
  rw [List.dropWhile_eq_nil_iff.mpr (bne_of_not_mem h)]
  rfl

theorem mem_of_mem_before (h : x ∈ before c s) : x ∈ s := List.takeWhile_subset _ h

theorem not_mem_before (c : Char) (s : List Char) : c ∉ before c s := by
  intro h
  have hne := List.mem_takeWhile_imp h
  simp at hne

theorem mem_of_mem_after (h : x ∈ after c s) : x ∈ s :=
  (List.dropWhile_sublist _).subset (List.mem_of_mem_drop h)

theorem afterLast_of_not_mem (h : c ∉ s) : afterLast c s = s := by
  have hreverse : s.reverse.takeWhile (· != c) = s.reverse :=
    List.takeWhile_eq_self_iff.mpr (bne_of_not_mem fun hmem => h (List.mem_reverse.mp hmem))
  unfold afterLast
  rw [hreverse, List.reverse_reverse]

/-- A text is what comes before a character and what begins with it. -/
theorem before_append_dropWhile (c : Char) (s : List Char) :
    before c s ++ s.dropWhile (· != c) = s := List.takeWhile_append_dropWhile

end partition

/-! ### What is split off as it stands -/

/-- The compatibility form of a character holds a delimiter, and the character is none. -/
def HostLibrary.expanding (lib : HostLibrary) (c : Char) : Bool :=
  decide (128 ≤ c.toNat) && lib.expands c

/-- The characters that structure a URL, and those that are removed from it. -/
def reservedChars : List Char := ['/', '?', '#', '@', ':', '[', ']', '%', '\t', '\r', '\n']

/-- What is known of `str.lower`: doing it twice changes nothing more, and it brings in neither a
reserved character nor one that expands to a delimiter. -/
structure HostLibrary.Lawful (lib : HostLibrary) : Prop where
  lower_lower : ∀ s, lib.lower (lib.lower s) = lib.lower s
  reserved : ∀ s, ∀ c ∈ (lib.lower s).toList, c ∈ reservedChars → c ∈ s.toList
  expanding : ∀ s, ∀ c ∈ (lib.lower s).toList, lib.expanding c = true →
    ∃ c' ∈ s.toList, lib.expanding c' = true

/-- A scheme in lower case. -/
structure PlainScheme (scheme : List Char) : Prop where
  head : scheme.head?.any isAsciiAlpha = true
  chars : scheme.all isSchemeChar = true
  lower : scheme.map Char.toLower = scheme

/-- A network location without anything that ends it or is left out of it. -/
structure PlainLocation (lib : HostLibrary) (netloc : List Char) : Prop where
  ends : ∀ c ∈ netloc, c ∉ locationEnds
  safe : ∀ c ∈ netloc, c ∉ unsafeChars
  plain : ∀ c ∈ netloc, lib.expanding c = false

variable {lib : HostLibrary} {scheme netloc host : List Char} {url : String} {parts : SplitResult}

theorem PlainScheme.not_mem (h : PlainScheme scheme) {c : Char} (hc : isSchemeChar c = false) :
    c ∉ scheme := by
  intro hmem
  have hchar := List.all_eq_true.mp h.chars c hmem
  rw [hc] at hchar
  cases hchar

theorem PlainScheme.ne_nil (h : PlainScheme scheme) : scheme ≠ [] := by
  rintro rfl
  exact absurd h.head (by decide)

/-- **The text that is split** is the text, where nothing is left out. -/
theorem cleaned_plain (hscheme : PlainScheme scheme) (hsafe : ∀ c ∈ netloc, c ∉ unsafeChars) :
    cleaned (scheme ++ ':' :: '/' :: '/' :: netloc) = scheme ++ ':' :: '/' :: '/' :: netloc := by
  obtain ⟨c, rest, rfl⟩ := List.exists_cons_of_ne_nil hscheme.ne_nil
  have halpha : c.isAlpha = true := by simpa [isAsciiAlpha] using hscheme.head
  have hcontrol : isControlOrSpace c = false := by
    simp only [Char.isAlpha, Char.isUpper, Char.isLower, Bool.or_eq_true, Bool.and_eq_true,
      decide_eq_true_eq] at halpha
    simp only [isControlOrSpace, decide_eq_false_iff_not, not_le]
    rcases halpha with ⟨h, -⟩ | ⟨h, -⟩
    · exact lt_of_lt_of_le (by decide) (UInt32.le_iff_toNat_le.mp h)
    · exact lt_of_lt_of_le (by decide) (UInt32.le_iff_toNat_le.mp h)
  unfold cleaned
  rw [List.cons_append, List.dropWhile_cons_of_neg (by rw [hcontrol]; decide), ← List.cons_append]
  refine List.filter_eq_self.mpr fun x hx => ?_
  have hnot : x ∉ unsafeChars := by
    rcases List.mem_append.mp hx with hmem | hmem
    · intro hstripped
      have hnone : ∀ c ∈ unsafeChars, isSchemeChar c = false := by
        simp [unsafeChars, isSchemeChar, Char.isAlphanum, Char.isAlpha, Char.isUpper, Char.isLower, Char.isDigit]
      exact hscheme.not_mem (hnone x hstripped) hmem
    · simp only [List.mem_cons] at hmem
      rcases hmem with rfl | rfl | rfl | hmem
      · decide
      · decide
      · decide
      · exact hsafe x hmem
  simpa using hnot

theorem splitScheme_plain (hscheme : PlainScheme scheme) (rest : List Char) :
    splitScheme (scheme ++ ':' :: rest) = (String.ofList scheme, rest) := by
  have hcolon : ':' ∉ scheme := hscheme.not_mem rfl
  have hhas : hasScheme (scheme ++ ':' :: rest) = true := by
    unfold hasScheme
    rw [before_append hcolon, hscheme.head, hscheme.chars]
    simp
  unfold splitScheme
  rw [if_pos hhas, before_append hcolon, after_append hcolon, hscheme.lower]

theorem splitNetloc_plain (hends : ∀ c ∈ netloc, c ∉ locationEnds) :
    splitNetloc ('/' :: '/' :: netloc) = (netloc, []) := by
  have hall : ∀ c ∈ netloc, (!locationEnds.contains c) = true := by
    intro c hc
    simpa using hends c hc
  unfold splitNetloc
  simp only [List.takeWhile_eq_self_iff.mpr hall, List.dropWhile_eq_nil_iff.mpr hall]

theorem checkNetloc_plain (hplain : ∀ c ∈ netloc, lib.expanding c = false) :
    checkNetloc lib netloc = .ok () := by
  refine guardE_eq_ok.mpr (List.all_eq_true.mpr fun c hc => ?_)
  have hc := hplain c hc
  unfold HostLibrary.expanding at hc
  rw [hc]
  rfl

/-- **The parts of a scheme and a network location.** -/
theorem urlsplit_plain (hurl : url.toList = scheme ++ ':' :: '/' :: '/' :: netloc)
    (hscheme : PlainScheme scheme) (hnetloc : PlainLocation lib netloc) :
    urlsplit lib url = (do
      checkBrackets lib netloc
      pure ⟨String.ofList scheme, netloc, [], [], []⟩) := by
  unfold urlsplit
  rw [hurl, cleaned_plain hscheme hnetloc.safe, splitScheme_plain hscheme]
  simp only [splitNetloc_plain hnetloc.ends, checkNetloc_plain hnetloc.plain]
  rfl

/-! ### What is split off -/

theorem mem_splitScheme {u : List Char} {c : Char} (h : c ∈ (splitScheme u).2) : c ∈ u := by
  unfold splitScheme at h
  split at h
  · exact mem_of_mem_after h
  · exact h

theorem mem_splitNetloc {u : List Char} {c : Char} (h : c ∈ (splitNetloc u).1) :
    c ∈ u ∧ c ∉ locationEnds := by
  unfold splitNetloc at h
  split at h
  · have hend := List.mem_takeWhile_imp h
    exact ⟨List.mem_cons_of_mem _ (List.mem_cons_of_mem _ (List.takeWhile_subset _ h)),
      by simpa using hend⟩
  · cases h

theorem mem_cleaned {u : List Char} {c : Char} (h : c ∈ cleaned u) : c ∉ unsafeChars := by
  have hsafe := (List.mem_filter.mp h).2
  simpa using hsafe

/-- **What is known of a network location that was split off.** -/
theorem location_of_urlsplit (h : urlsplit lib url = .ok parts) :
    PlainLocation lib parts.netloc ∧ checkBrackets lib parts.netloc = .ok () := by
  unfold urlsplit at h
  simp only [bind_eq_ok] at h
  obtain ⟨⟨⟩, hbrackets, ⟨⟩, hnormal, hparts⟩ := h
  cases hparts
  refine ⟨⟨?_, ?_, ?_⟩, hbrackets⟩
  · intro c hc
    exact (mem_splitNetloc hc).2
  · intro c hc
    exact mem_cleaned (mem_splitScheme (mem_splitNetloc hc).1)
  · intro c hc
    have hall := List.all_eq_true.mp (guardE_eq_ok.mp hnormal) c hc
    exact (Bool.not_eq_true' _).mp hall

theorem brackets_iff (h : checkBrackets lib netloc = .ok ()) : '[' ∈ netloc ↔ ']' ∈ netloc := by
  obtain ⟨⟨⟩, hsame, -⟩ := bind_eq_ok.mp h
  have heq := guardE_eq_ok.mp hsame
  rw [beq_iff_eq] at heq
  rw [← List.contains_iff_mem, ← List.contains_iff_mem, heq]

/-- Without brackets there is nothing to check about them. -/
theorem checkBrackets_plain (hopen : '[' ∉ netloc) (hclose : ']' ∉ netloc) :
    checkBrackets lib netloc = .ok () := by
  have hopen' : netloc.contains '[' = false := by simpa using hopen
  have hclose' : netloc.contains ']' = false := by simpa using hclose
  unfold checkBrackets
  rw [hopen', hclose']
  rfl

/-- A bracket that is not closed. -/
theorem checkBrackets_open (hopen : '[' ∈ netloc) (hclose : ']' ∉ netloc) :
    checkBrackets lib netloc = .error (.valueError "Invalid IPv6 URL") := by
  have hopen' : netloc.contains '[' = true := by simpa using hopen
  have hclose' : netloc.contains ']' = false := by simpa using hclose
  unfold checkBrackets
  rw [hopen', hclose']
  rfl

/-! ### Hosts -/

theorem mem_rawHost {c : Char} (h : c ∈ parts.rawHost) : c ∈ parts.hostinfo := by
  unfold SplitResult.rawHost at h
  split at h
  · exact mem_of_mem_after (mem_of_mem_before h)
  · exact mem_of_mem_before h

theorem mem_hostinfo {c : Char} (h : c ∈ parts.hostinfo) : c ∈ parts.netloc ∧ c ≠ '@' := by
  have hreverse := List.mem_reverse.mp h
  have hne := List.mem_takeWhile_imp hreverse
  exact ⟨List.mem_reverse.mp (List.takeWhile_subset _ hreverse), by simpa using hne⟩

/-- A host holds no closing bracket, where no user information comes before it. -/
theorem close_not_mem_rawHost (hbrackets : checkBrackets lib parts.netloc = .ok ())
    (huser : '@' ∉ parts.netloc) : ']' ∉ parts.rawHost := by
  have hinfo : parts.hostinfo = parts.netloc := afterLast_of_not_mem huser
  unfold SplitResult.rawHost
  rw [hinfo]
  split
  · exact not_mem_before _ _
  · rename_i hopen
    intro hclose
    exact hopen (List.contains_iff_mem.mpr ((brackets_iff hbrackets).mpr (mem_of_mem_before hclose)))

theorem mem_lowerHost (hlib : lib.Lawful) {c : Char} (h : c ∈ lowerHost lib host)
    (hc : c ∈ reservedChars) : c ∈ host := by
  rcases List.mem_append.mp h with hmem | hmem
  · have hin := hlib.reserved _ c hmem hc
    rw [String.toList_ofList] at hin
    exact mem_of_mem_before hin
  · exact (List.dropWhile_sublist _).subset hmem

/-- Lower case of a host is in lower case. -/
theorem lowerHost_lowerHost (hlib : lib.Lawful) (host : List Char) :
    lowerHost lib (lowerHost lib host) = lowerHost lib host := by
  have hpercent : '%' ∉ (lib.lower (String.ofList (before '%' host))).toList := by
    intro hmem
    have hin := hlib.reserved _ '%' hmem (by decide)
    rw [String.toList_ofList] at hin
    exact not_mem_before _ _ hin
  have hlower : lib.lower (String.ofList (lib.lower (String.ofList (before '%' host))).toList) =
      lib.lower (String.ofList (before '%' host)) := by
    rw [String.ofList_toList, hlib.lower_lower]
  have hsplit : before '%' (lowerHost lib host) =
      (lib.lower (String.ofList (before '%' host))).toList ∧
      (lowerHost lib host).dropWhile (· != '%') = host.dropWhile (· != '%') := by
    unfold lowerHost
    cases hrest : host.dropWhile (· != '%') with
    | nil =>
      rw [List.append_nil]
      exact ⟨before_of_not_mem hpercent, List.dropWhile_eq_nil_iff.mpr (bne_of_not_mem hpercent)⟩
    | cons c rest =>
      have hc : c = '%' := by
        have hne : host.dropWhile (· != '%') ≠ [] := hrest ▸ List.cons_ne_nil c rest
        have hhead := List.head_dropWhile_not (· != '%') hne
        simpa [hrest] using hhead
      subst hc
      refine ⟨before_append hpercent rest, ?_⟩
      rw [List.dropWhile_append_of_pos (bne_of_not_mem hpercent)]
      simp
  unfold lowerHost at hsplit ⊢
  rw [hsplit.1, hsplit.2, hlower]

/-- **The host of a location**, in lower case, is one that is split off as it stands. -/
theorem plainLocation_lowerHost (hlib : lib.Lawful) (hlocation : PlainLocation lib parts.netloc) :
    PlainLocation lib (lowerHost lib parts.rawHost) := by
  have hin : ∀ c ∈ parts.rawHost, c ∈ parts.netloc := fun c hc => (mem_hostinfo (mem_rawHost hc)).1
  have hends : ∀ c ∈ locationEnds, c ∈ reservedChars := by simp [locationEnds, reservedChars]
  have hblanks : ∀ c ∈ unsafeChars, c ∈ reservedChars := by simp [unsafeChars, reservedChars]
  refine ⟨fun c hc hend => ?_, fun c hc hbad => ?_, fun c hc => ?_⟩
  · exact hlocation.ends c (hin c (mem_lowerHost hlib hc (hends c hend))) hend
  · exact hlocation.safe c (hin c (mem_lowerHost hlib hc (hblanks c hbad))) hbad
  · by_contra hexpands
    rw [Bool.not_eq_false] at hexpands
    rcases List.mem_append.mp hc with hmem | hmem
    · obtain ⟨c', hc', hexpands'⟩ := hlib.expanding _ c hmem hexpands
      rw [String.toList_ofList] at hc'
      rw [hlocation.plain c' (hin c' (mem_of_mem_before hc'))] at hexpands'
      cases hexpands'
    · rw [hlocation.plain c (hin c ((List.dropWhile_sublist _).subset hmem))] at hexpands
      cases hexpands

/-! ### Writing a location -/

/-- `f":{port}"`, or nothing. -/
def writePort : Option ℕ → List Char
  | some n => ':' :: Nat.toDigits 10 n
  | none => []

theorem not_mem_writePort {c : Char} (hc : c.isDigit = false) (hcolon : c ≠ ':') (port : Option ℕ) :
    c ∉ writePort port := by
  cases port with
  | none => exact List.not_mem_nil
  | some n =>
    intro h
    rcases List.mem_cons.mp h with rfl | hmem
    · exact hcolon rfl
    · rw [Nat.isDigit_of_mem_toDigits (by decide) (by decide) hmem] at hc
      cases hc

theorem plainLocation_written (h : PlainLocation lib host) (port : Option ℕ) :
    PlainLocation lib (host ++ writePort port) := by
  have hends : ∀ c ∈ locationEnds, c.isDigit = false ∧ c ≠ ':' := by
    simp [locationEnds, Char.isDigit]
  have hblanks : ∀ c ∈ unsafeChars, c.isDigit = false ∧ c ≠ ':' := by
    simp [unsafeChars, Char.isDigit]
  refine ⟨fun c hc hend => ?_, fun c hc hbad => ?_, fun c hc => ?_⟩
  · rcases List.mem_append.mp hc with hmem | hmem
    · exact h.ends c hmem hend
    · exact not_mem_writePort (hends c hend).1 (hends c hend).2 port hmem
  · rcases List.mem_append.mp hc with hmem | hmem
    · exact h.safe c hmem hbad
    · exact not_mem_writePort (hblanks c hbad).1 (hblanks c hbad).2 port hmem
  · rcases List.mem_append.mp hc with hmem | hmem
    · exact h.plain c hmem
    · have hascii : c.toNat < 128 := by
        cases port with
        | none => cases hmem
        | some n =>
          rcases List.mem_cons.mp hmem with rfl | hdigit
          · decide
          · have hd := Nat.isDigit_of_mem_toDigits (by decide) (by decide) hdigit
            simp only [Char.isDigit, Bool.and_eq_true, decide_eq_true_eq] at hd
            exact lt_of_le_of_lt (UInt32.le_iff_toNat_le.mp hd.2) (by decide)
      unfold HostLibrary.expanding
      rw [decide_eq_false (by omega), Bool.false_and]

section written

variable {port : Option ℕ} (hnetloc : parts.netloc = host ++ writePort port) (huser : '@' ∉ host)
  (hopen : '[' ∉ host)

include hnetloc huser

theorem hostinfo_written : parts.hostinfo = host ++ writePort port := by
  unfold SplitResult.hostinfo
  rw [hnetloc]
  refine afterLast_of_not_mem fun h => ?_
  rcases List.mem_append.mp h with hmem | hmem
  · exact huser hmem
  · exact not_mem_writePort rfl (by decide) port hmem

include hopen

theorem not_open_written : parts.hostinfo.contains '[' = false := by
  rw [hostinfo_written hnetloc huser]
  have hnot : '[' ∉ host ++ writePort port := fun h =>
    (List.mem_append.mp h).elim hopen (not_mem_writePort rfl (by decide) port)
  simpa using hnot

/-- The host of a location without brackets ends at its first colon. -/
theorem rawHost_written : parts.rawHost = before ':' (host ++ writePort port) := by
  unfold SplitResult.rawHost
  rw [not_open_written hnetloc huser hopen, hostinfo_written hnetloc huser]
  rfl

/-- **A host that was written is read back**, where it holds no colon. -/
theorem hostname_written (hcolon : ':' ∉ host) (hne : host ≠ []) :
    parts.hostname lib = some (String.ofList (lowerHost lib host)) := by
  have hraw : parts.rawHost = host := by
    rw [rawHost_written hnetloc huser hopen]
    cases port with
    | none =>
      rw [writePort, List.append_nil]
      exact before_of_not_mem hcolon
    | some n => exact before_append hcolon _
  unfold SplitResult.hostname
  rw [hraw, if_neg hne]

/-- **A host with a colon is not.** -/
theorem hostname_written_ne (hlib : lib.Lawful) (hcolon : ':' ∈ host) :
    parts.hostname lib ≠ some (String.ofList host) := by
  have hraw : ':' ∉ parts.rawHost := by
    rw [rawHost_written hnetloc huser hopen]
    exact not_mem_before _ _
  unfold SplitResult.hostname
  split
  · exact nofun
  · intro heq
    have hhost := congrArg String.toList (Option.some.inj heq)
    rw [String.toList_ofList, String.toList_ofList] at hhost
    exact hraw (mem_lowerHost hlib (hhost ▸ hcolon) (by decide))

/-- **A port that was written is read back.** -/
theorem port_written (hcolon : ':' ∉ host) (hport : ∀ n, port = some n → n ≤ 65535) :
    parts.port lib = .ok port := by
  have hraw : parts.rawPort = after ':' (host ++ writePort port) := by
    unfold SplitResult.rawPort
    rw [not_open_written hnetloc huser hopen, hostinfo_written hnetloc huser]
    rfl
  unfold SplitResult.port
  cases port with
  | none =>
    rw [hraw, writePort, List.append_nil, after_of_not_mem hcolon]
    rfl
  | some n =>
    have hdigits : parts.rawPort = Nat.toDigits 10 n := by
      rw [hraw]
      exact after_append hcolon _
    have hshort : (Nat.toDigits 10 n).length ≤ 5 :=
      (Nat.length_toDigits_le_iff (by decide) (by decide)).mpr (by have := hport n rfl; omega)
    have hread : readPort lib (Nat.toDigits 10 n) = .ok n := by
      simp only [readPort, bind_eq_ok, guardE_eq_ok, pure, Except.pure,
        Nat.ofDigitChars_ten_toDigits]
      refine ⟨(), List.all_eq_true.mpr fun c hc => ?_, (), decide_eq_true ?_, (),
        decide_eq_true (hport n rfl), trivial⟩
      · exact Nat.isDigit_of_mem_toDigits (by decide) (by decide) hc
      · unfold maxPortDigits
        omega
    rw [hdigits, if_neg Nat.toDigits_ne_nil, hread]
    rfl

end written

end PyData
