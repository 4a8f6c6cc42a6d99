import Aotp.Lib.Urls
import Aotp.Tools.Roe

/-!
# Origins

* `splitUrls` — `urlsplit` and what its result gives, as the program reads it.
* `webOrigin` — the scheme, the host and the port of a base URL, put together again.
* `GivesBack` — what taking that apart should give.
* `givesBack_iff` — **an origin gives back its base URL exactly where the port can be read and is not
  0, and the host holds neither a colon nor an opening bracket**: the brackets of an address are left
  out.
-/

namespace Aotp.Tools

open PyData

/-! ### Splitting -/

/-- The result of `urlsplit`, as the program reads it. -/
def toSplitUrl (lib : HostLibrary) (parts : SplitResult) : SplitUrl where
  scheme := parts.scheme
  hostname := parts.hostname lib
  port := parts.port lib
  username := parts.username
  password := parts.password
  query := String.ofList parts.query
  fragment := String.ofList parts.fragment

/-- `urllib.parse.urlsplit`. -/
def splitUrls (lib : HostLibrary) : Urls where
  urlsplit url := do
    let parts ← PyData.urlsplit lib url
    pure (toSplitUrl lib parts)

/-! ### Origins -/

/-- `443 if parsed.scheme == "https" else 80`. -/
def schemePort (parsed : SplitUrl) : ℕ := if parsed.scheme = "https" then 443 else 80

/-- `f":{parsed.port}" if parsed.port and parsed.port != default_port else ""`. -/
def portSuffix (parsed : SplitUrl) (port : Option ℕ) : String :=
  match port with
  | some p => if p ≠ 0 ∧ p ≠ schemePort parsed then ":" ++ Nat.repr p else ""
  | none => ""

/-- `f"{parsed.scheme}://{parsed.hostname}{suffix}"`. -/
def originText (parsed : SplitUrl) (port : Option ℕ) : String :=
  parsed.scheme ++ "://" ++ parsed.hostname.getD "None" ++ portSuffix parsed port

/-- The origin of a base URL, as four classes of the program put it together. -/
def webOrigin (urls : Urls) (baseUrl : String) : Except Exc String := do
  let parsed ← urls.urlsplit baseUrl
  let port ← parsed.port
  pure (originText parsed port)

/-- An absolute web URL without credentials. -/
structure WebUrl (parsed : SplitUrl) : Prop where
  scheme : parsed.scheme = "http" ∨ parsed.scheme = "https"
  hostname : parsed.hostname.any (· != "") = true
  username : parsed.username = none

/-- The port a URL names, else that of its scheme. -/
def namedPort (parsed : SplitUrl) : Except Exc ℕ := do
  let port ← parsed.port
  pure (port.getD (schemePort parsed))

/-- An origin can be read, and taking it apart gives the scheme, the host and the port of the base
URL. -/
def GivesBack (urls : Urls) (baseUrl : String) (origin : Except Exc String) : Prop :=
  ∃ text parsed back port, origin = .ok text ∧ urls.urlsplit baseUrl = .ok parsed ∧
    urls.urlsplit text = .ok back ∧ back.scheme = parsed.scheme ∧
    back.hostname = parsed.hostname ∧ namedPort parsed = .ok port ∧ namedPort back = .ok port

/-- The port of a URL can be read and is not 0, and its host holds neither a colon nor an opening
bracket. -/
structure Restorable (parsed : SplitUrl) : Prop where
  port : ∃ port, parsed.port = .ok port ∧ port ≠ some 0
  host : ∀ host, parsed.hostname = some host → ':' ∉ host.toList ∧ '[' ∉ host.toList

variable {lib : HostLibrary} {baseUrl : String} {parsed : SplitUrl}

theorem splitUrls_eq_ok : (splitUrls lib).urlsplit baseUrl = .ok parsed ↔
    ∃ parts, PyData.urlsplit lib baseUrl = .ok parts ∧ toSplitUrl lib parts = parsed := by
  unfold splitUrls
  simp only [bind_eq_ok, pure, Except.pure, Except.ok.injEq]

/-- A port that can be read is one. -/
theorem port_le {parts : SplitResult} {n : ℕ} (h : parts.port lib = .ok (some n)) : n ≤ 65535 := by
  unfold SplitResult.port at h
  split at h
  · cases h
  · simp only [readPort, bind_eq_ok, guardE_eq_ok, pure, Except.pure, Except.ok.injEq,
      Option.some.injEq] at h
    obtain ⟨m, ⟨-, -, -, -, -, hle, rfl⟩, rfl⟩ := h
    exact of_decide_eq_true hle

/-- Without a username there is no user information. -/
theorem at_not_mem {parts : SplitResult} (h : parts.username = none) : '@' ∉ parts.netloc := by
  intro hmem
  unfold SplitResult.username at h
  rw [if_pos (List.contains_iff_mem.mpr hmem)] at h
  cases h

/-- The port an origin shows. -/
def shownPort (parsed : SplitUrl) : Option ℕ → Option ℕ
  | some p => if p ≠ 0 ∧ p ≠ schemePort parsed then some p else none
  | none => none

theorem portSuffix_toList (parsed : SplitUrl) (port : Option ℕ) :
    (portSuffix parsed port).toList = writePort (shownPort parsed port) := by
  cases port with
  | none => rfl
  | some p =>
    unfold portSuffix shownPort
    dsimp only
    by_cases hp : p ≠ 0 ∧ p ≠ schemePort parsed
    · rw [if_pos hp, if_pos hp, String.toList_append, Nat.toList_repr]
      rfl
    · rw [if_neg hp, if_neg hp]
      rfl

theorem schemePort_ne_zero (parsed : SplitUrl) : schemePort parsed ≠ 0 := by
  unfold schemePort
  split <;> decide

/-- An origin shows every port but 0 and the one of the scheme, so that it is the same one. -/
theorem shownPort_getD (parsed : SplitUrl) (port : Option ℕ) :
    (shownPort parsed port).getD (schemePort parsed) = port.getD (schemePort parsed) ↔
      port ≠ some 0 := by
  cases port with
  | none => exact iff_of_true rfl nofun
  | some p =>
    unfold shownPort
    dsimp only
    by_cases hzero : p = 0
    · subst hzero
      rw [if_neg fun h => h.1 rfl]
      exact iff_of_false (schemePort_ne_zero parsed) fun h => h rfl
    · have hne : (some p : Option ℕ) ≠ some 0 := fun h => hzero (Option.some.inj h)
      refine iff_of_true ?_ hne
      by_cases hdefault : p = schemePort parsed
      · rw [if_neg fun h => h.2 hdefault]
        exact hdefault.symm
      · rw [if_pos ⟨hzero, hdefault⟩]

theorem shown_le {parts : SplitResult} {port : Option ℕ} (hport : parts.port lib = .ok port) :
    ∀ n, shownPort (toSplitUrl lib parts) port = some n → n ≤ 65535 := by
  intro n hn
  cases port with
  | none => cases hn
  | some p =>
    unfold shownPort at hn
    dsimp only at hn
    split at hn
    · obtain rfl := Option.some.inj hn
      exact port_le hport
    · cases hn

theorem plainScheme_of_web {scheme : String} (h : scheme = "http" ∨ scheme = "https") :
    PlainScheme scheme.toList := by
  rcases h with rfl | rfl <;> exact ⟨by decide, by decide, by decide⟩

theorem plainScheme_web (hweb : WebUrl parsed) : PlainScheme parsed.scheme.toList :=
  plainScheme_of_web hweb.scheme

section origin

variable {parts : SplitResult} {host : List Char} {shown : Option ℕ}

/-- What is known of the host of an accepted base URL, as it is shown. -/
structure ShownHost (lib : HostLibrary) (host : List Char) : Prop where
  plain : PlainLocation lib host
  user : '@' ∉ host
  close : ']' ∉ host
  ne_nil : host ≠ []
  lower : lowerHost lib host = host

theorem shownHost (hlib : lib.Lawful) (hsplit : PyData.urlsplit lib baseUrl = .ok parts)
    (hweb : WebUrl (toSplitUrl lib parts)) : ∃ host, ShownHost lib host ∧
      parts.hostname lib = some (String.ofList host) := by
  obtain ⟨hlocation, hbrackets⟩ := location_of_urlsplit hsplit
  have huser : '@' ∉ parts.netloc := at_not_mem hweb.username
  have hname := hweb.hostname
  have hsome : (parts.hostname lib).any (· != "") = true := hname
  unfold SplitResult.hostname at hsome ⊢
  by_cases hraw : parts.rawHost = []
  · rw [if_pos hraw] at hsome
    cases hsome
  · rw [if_neg hraw] at hsome ⊢
    refine ⟨lowerHost lib parts.rawHost, ⟨plainLocation_lowerHost hlib hlocation, ?_, ?_, ?_,
      lowerHost_lowerHost hlib _⟩, rfl⟩
    · intro hmem
      exact (mem_hostinfo (mem_rawHost (mem_lowerHost hlib hmem (by decide)))).2 rfl
    · intro hmem
      exact close_not_mem_rawHost hbrackets huser (mem_lowerHost hlib hmem (by decide))
    · intro hnil
      rw [hnil] at hsome
      exact absurd hsome (by decide)

/-- **Taking an origin apart**: it has the parts of its scheme and its location, or its brackets
fail. -/
theorem urlsplit_origin {scheme : List Char} {text : String} (hscheme : PlainScheme scheme)
    (hhost : ShownHost lib host)
    (htext : text.toList = scheme ++ ':' :: '/' :: '/' :: (host ++ writePort shown)) :
    PyData.urlsplit lib text =
      if '[' ∈ host then .error (.valueError "Invalid IPv6 URL")
      else .ok ⟨String.ofList scheme, host ++ writePort shown, [], [], []⟩ := by
  have hclose : ']' ∉ host ++ writePort shown := fun h =>
    (List.mem_append.mp h).elim hhost.close (not_mem_writePort rfl (by decide) shown)
  rw [urlsplit_plain htext hscheme (plainLocation_written hhost.plain shown)]
  by_cases hopen : '[' ∈ host
  · rw [if_pos hopen, checkBrackets_open (List.mem_append_left _ hopen) hclose]
    rfl
  · have hnone : '[' ∉ host ++ writePort shown := fun h =>
      (List.mem_append.mp h).elim hopen (not_mem_writePort rfl (by decide) shown)
    rw [if_neg hopen, checkBrackets_plain hnone hclose]
    rfl

/-- What a location that was written reads back as. -/
theorem written_back (scheme : String) (hhost : ShownHost lib host) (hopen : '[' ∉ host)
    (hcolon : ':' ∉ host) (hshown : ∀ n, shown = some n → n ≤ 65535) :
    (toSplitUrl lib ⟨scheme, host ++ writePort shown, [], [], []⟩).hostname =
      some (String.ofList host) ∧
    (toSplitUrl lib ⟨scheme, host ++ writePort shown, [], [], []⟩).port = .ok shown := by
  constructor
  · have hback : SplitResult.hostname lib ⟨scheme, host ++ writePort shown, [], [], []⟩ =
        some (String.ofList (lowerHost lib host)) :=
      hostname_written rfl hhost.user hopen hcolon hhost.ne_nil
    rw [hhost.lower] at hback
    exact hback
  · exact port_written rfl hhost.user hopen hcolon hshown

end origin

theorem originText_toList {host : List Char} (hname : parsed.hostname = some (String.ofList host))
    (port : Option ℕ) : (originText parsed port).toList =
      parsed.scheme.toList ++ ':' :: '/' :: '/' :: (host ++ writePort (shownPort parsed port)) := by
  unfold originText
  rw [hname, String.toList_append, String.toList_append, String.toList_append, portSuffix_toList,
    Option.getD_some, String.toList_ofList]
  simp

/-- **The round trip of an origin.** -/
theorem givesBack_iff (hlib : lib.Lawful) (hparsed : (splitUrls lib).urlsplit baseUrl = .ok parsed)
    (hweb : WebUrl parsed) :
    GivesBack (splitUrls lib) baseUrl (webOrigin (splitUrls lib) baseUrl) ↔ Restorable parsed := by
  obtain ⟨parts, hsplit, rfl⟩ := splitUrls_eq_ok.mp hparsed
  obtain ⟨host, hhost, hname⟩ := shownHost hlib hsplit hweb
  have hscheme := plainScheme_web hweb
  have horigin : ∀ text, webOrigin (splitUrls lib) baseUrl = .ok text ↔
      ∃ port, parts.port lib = .ok port ∧ originText (toSplitUrl lib parts) port = text := by
    intro text
    unfold webOrigin
    simp only [hparsed, bind_eq_ok, pure, Except.pure, Except.ok.injEq, exists_eq_left']
    rfl
  -- what the text of an origin is split into
  have hsplitOrigin : ∀ port, PyData.urlsplit lib (originText (toSplitUrl lib parts) port) =
      if '[' ∈ host then .error (.valueError "Invalid IPv6 URL")
      else .ok ⟨parts.scheme, host ++ writePort (shownPort (toSplitUrl lib parts) port), [], [], []⟩ := by
    intro port
    have hback := urlsplit_origin hscheme hhost (originText_toList hname port)
    rw [String.ofList_toList] at hback
    exact hback
  constructor
  · rintro ⟨text, parsed', back, n, htext, hbase, hback, -, hhostname, hnamed, hnamedBack⟩
    obtain rfl : toSplitUrl lib parts = parsed' := Except.ok.inj (hparsed.symm.trans hbase)
    obtain ⟨port, hport, rfl⟩ := (horigin text).mp htext
    obtain ⟨backParts, hbackSplit, rfl⟩ := splitUrls_eq_ok.mp hback
    rw [hsplitOrigin] at hbackSplit
    by_cases hopen : '[' ∈ host
    · rw [if_pos hopen] at hbackSplit
      cases hbackSplit
    · rw [if_neg hopen] at hbackSplit
      obtain rfl := Except.ok.inj hbackSplit
      have hcolon : ':' ∉ host := by
        intro hcolon
        have hne : SplitResult.hostname lib ⟨parts.scheme,
            host ++ writePort (shownPort (toSplitUrl lib parts) port), [], [], []⟩ ≠
            some (String.ofList host) := hostname_written_ne rfl hhost.user hopen hlib hcolon
        exact hne (hhostname.trans hname)
      obtain ⟨-, hbackPort⟩ := written_back parts.scheme hhost hopen hcolon (shown_le hport)
      refine ⟨⟨port, hport, ?_⟩, ?_⟩
      · rw [← shownPort_getD (toSplitUrl lib parts)]
        have hport' : (toSplitUrl lib parts).port = .ok port := hport
        unfold namedPort at hnamed hnamedBack
        rw [hport'] at hnamed
        rw [hbackPort] at hnamedBack
        exact Except.ok.inj (hnamedBack.trans hnamed.symm)
      · intro host' hhost'
        obtain rfl := Option.some.inj (hname.symm.trans hhost')
        rw [String.toList_ofList]
        exact ⟨hcolon, hopen⟩
  · rintro ⟨⟨port, hport, hzero⟩, hplain⟩
    obtain ⟨hcolon, hopen⟩ := hplain _ hname
    rw [String.toList_ofList] at hcolon hopen
    obtain ⟨hbackName, hbackPort⟩ := written_back parts.scheme hhost hopen hcolon (shown_le hport)
    have hback := hsplitOrigin port
    rw [if_neg hopen] at hback
    refine ⟨_, _, _, port.getD (schemePort (toSplitUrl lib parts)), (horigin _).mpr ⟨port, hport, rfl⟩,
      hparsed, splitUrls_eq_ok.mpr ⟨_, hback, rfl⟩, rfl, hbackName.trans hname.symm, ?_, ?_⟩
    · unfold namedPort
      rw [hport]
      rfl
    · unfold namedPort
      rw [hbackPort]
      exact congrArg Except.ok ((shownPort_getD _ port).mpr hzero)

end Aotp.Tools
