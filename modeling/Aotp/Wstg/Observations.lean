import Aotp.Gate.Placeholders
import Aotp.Tools.Ledger
import Aotp.Wstg.LiveRequests

/-!
# What a live observation records

* `decode` — `bytes.decode("utf-8", errors="replace")`.
* `subSecrets`, `safeExcerpt`, `redactHeaders` — the redaction of a body and of headers.
* `defaultHttpGetExecutor` — the observation made of a response, an error response or a failure.
* `stretches`, `subSecrets_eq` — an excerpt is the stretches of the body between two redacted values,
  with placeholders between them.
* `observation_redacted_iff` — **an observation is clear of secrets exactly when the stretches and the
  headers it keeps are, and no stretch ends where a placeholder completes a pattern**;
  `password_reported` — one that does.
-/

namespace Aotp.Wstg

open PyData Aotp.Gate

/-! ### Decoding -/

/-- A character that has begun: its code so far, the range of the next byte, and the bytes left. -/
structure Begun where
  code : ℕ
  lo : ℕ
  hi : ℕ
  left : ℕ

/-- U+FFFD -/
def replacement : Char := Char.ofNat 0xFFFD

/-- What a first byte says: a whole character, or one that has begun. -/
def lead (b : ℕ) : Char ⊕ Begun :=
  if b < 0x80 then .inl (Char.ofNat b)
  else if 0xC2 ≤ b ∧ b ≤ 0xDF then .inr ⟨b - 0xC0, 0x80, 0xBF, 1⟩
  else if b = 0xE0 then .inr ⟨0, 0xA0, 0xBF, 2⟩
  else if b = 0xED then .inr ⟨0xD, 0x80, 0x9F, 2⟩
  else if 0xE1 ≤ b ∧ b ≤ 0xEF then .inr ⟨b - 0xE0, 0x80, 0xBF, 2⟩
  else if b = 0xF0 then .inr ⟨0, 0x90, 0xBF, 3⟩
  else if 0xF1 ≤ b ∧ b ≤ 0xF3 then .inr ⟨b - 0xF0, 0x80, 0xBF, 3⟩
  else if b = 0xF4 then .inr ⟨4, 0x80, 0x8F, 3⟩
  else .inl replacement

/-- The characters of some bytes; a sequence that breaks off is replaced as far as it goes. -/
def decodeFrom : Option Begun → List UInt8 → List Char
  | none, [] => []
  | some _, [] => [replacement]
  | none, b :: bs =>
    match lead b.toNat with
    | .inl c => c :: decodeFrom none bs
    | .inr begun => decodeFrom (some begun) bs
  | some ⟨code, lo, hi, left⟩, b :: bs =>
    let next := code * 64 + (b.toNat - 0x80)
    if lo ≤ b.toNat ∧ b.toNat ≤ hi then
      if left = 1 then Char.ofNat next :: decodeFrom none bs
      else decodeFrom (some ⟨next, 0x80, 0xBF, left - 1⟩) bs
    else
      replacement ::
        match lead b.toNat with
        | .inl c => c :: decodeFrom none bs
        | .inr begun => decodeFrom (some begun) bs

/-- `body.decode("utf-8", errors="replace")` -/
def decode (body : List UInt8) : List Char := decodeFrom none body

example : decode [0x61, 0xC3, 0xA9, 0xE2, 0x82, 0xFF] =
    ['a', 'é', replacement, replacement] := by decide

theorem decodeFrom_length (bs : List UInt8) : (decodeFrom none bs).length ≤ bs.length ∧
    ∀ begun, (decodeFrom (some begun) bs).length ≤ bs.length + 1 := by
  induction bs with
  | nil => exact ⟨le_refl _, fun _ => le_refl _⟩
  | cons b bs ih =>
    obtain ⟨hnone, hsome⟩ := ih
    have hlead : (match lead b.toNat with
        | .inl c => c :: decodeFrom none bs
        | .inr begun => decodeFrom (some begun) bs).length ≤ bs.length + 1 := by
      cases lead b.toNat with
      | inl c => simpa using hnone
      | inr begun => exact hsome begun
    refine ⟨by rw [decodeFrom]; exact hlead, ?_⟩
    rintro ⟨code, lo, hi, left⟩
    rw [decodeFrom, List.length_cons]
    split_ifs
    · rw [List.length_cons]
      omega
    · exact Nat.le_succ_of_le (hsome _)
    · rw [List.length_cons]
      omega

/-- A text has no more characters than bytes. -/
theorem decode_length (body : List UInt8) : (decode body).length ≤ body.length :=
  (decodeFrom_length body).1

/-! ### The redaction of a body -/

/-- `(authorization|cookie|token|password|secret)`, in any case. -/
def secretName : Re :=
  altRe [litRe true "authorization", litRe true "cookie", litRe true "token", litRe true "password",
    litRe true "secret"]

/-- `\s*[:=]\s*[^\s"'<>]+` -/
def secretValue : Re :=
  seqRe [atLeast 0 isSpace, .cls (oneOf ":="), atLeast 0 isSpace,
    atLeast 1 fun c => !isSpace c && !oneOf "\"'<>" c]

/-- The match at a position, if there is one: its name, and the position after it. -/
def nextSecret (word : Char → Bool) (pos : Pos) : Option (List Char × Pos) :=
  ((secretName.run word pos).flatMap fun q =>
    (secretValue.run word q).map fun r => (pos.2.take (pos.2.length - q.2.length), r)).head?

/-- `re.sub(pattern, "\1=[redacted]", text)` from a position on; a match is not empty, so the fuel is
the length of what is left. -/
def subSecrets (word : Char → Bool) : ℕ → Pos → List Char
  | 0, (_, cs) => cs
  | _ + 1, (_, []) => []
  | fuel + 1, (prev, c :: cs) =>
    match nextSecret word (prev, c :: cs) with
    | some (name, pos) => name ++ "=[redacted]".toList ++ subSecrets word fuel pos
    | none => c :: subSecrets word fuel (some c, cs)

/-- Source: `wstg_live_campaign._safe_excerpt` -/
def safeExcerpt (rt : Runtime) (body : List UInt8) : String :=
  let text := decode (body.take 2000)
  String.ofList ((subSecrets (isWord rt) text.length (none, text)).take 5000)

/-! ### The redaction of headers -/

/-- Source: `wstg_live_campaign._SENSITIVE_HEADER_NAMES` -/
def sensitiveHeaderNames : List String :=
  ["authorization", "cookie", "set-cookie", "proxy-authorization", "x-api-key", "x-auth-token"]

/-- `dict(items)`: the last value of a name stands where the name stood first. -/
def setHeader (name value : String) : List (String × String) → List (String × String)
  | [] => [(name, value)]
  | h :: hs => if h.1 = name then (name, value) :: hs else h :: setHeader name value hs

@[inherit_doc setHeader]
def dictOf (items : List (String × String)) : List (String × String) :=
  items.foldl (fun m h => setHeader h.1 h.2 m) []

/-- A header whose value is not kept. -/
def sensitiveHeader (rt : Runtime) (name : String) : Bool :=
  sensitiveHeaderNames.contains (rt.lower name)

/-- `value[:500]` -/
def cutHeader (value : String) : String := String.ofList (value.toList.take 500)

/-- Source: `wstg_live_campaign._redact_headers` -/
def redactHeaders (rt : Runtime) (headers : List (String × String)) : List (String × String) :=
  headers.map fun h => (h.1, if sensitiveHeader rt h.1 then "[redacted]" else cutHeader h.2)

/-! ### The observation -/

/-- An action, with what the observation says of it.
Source: `execution_planner.CampaignAction` -/
structure ObservedAction extends CampaignAction where
  actionId : String
  wstgIds : List String

/-- What becomes of a request: a response, an error response, or none. `contentType` is the header of
that name. -/
inductive Fetched where
  | response (status : ℤ) (reason : Option String) (headers : List (String × String))
      (contentType : Option String) (body : List UInt8)
  | httpError (code : ℤ) (reason : String) (headers : Option (List (String × String)))
      (contentType : Option String) (body : List UInt8)
  | osError (name : String)

/-- Source: `wstg_live_campaign.WSTGLiveObservation` -/
structure WSTGLiveObservation where
  actionId : String
  method : String
  url : String
  statusCode : ℤ
  reason : String
  headers : List (String × String)
  contentType : String
  bodySha256 : String
  bodyExcerpt : String
  bodySizeBytes : ℕ
  elapsedMs : ℤ
  wstgIds : List String
  error : Option String := none

/-- Source: `wstg_live_campaign.default_http_get_executor`, the three observations -/
def observe (rt : Runtime) (sha256 : List UInt8 → String) (action : ObservedAction) (url : String)
    (elapsedMs : ℤ) : Fetched → WSTGLiveObservation
  | .response status reason headers contentType body =>
    let body := body.take 262144
    { actionId := action.actionId, method := "GET", url := url, statusCode := status
      reason := reason.getD "", headers := redactHeaders rt (dictOf headers)
      contentType := contentType.getD "", bodySha256 := sha256 body
      bodyExcerpt := safeExcerpt rt body, bodySizeBytes := body.length, elapsedMs := elapsedMs
      wstgIds := action.wstgIds }
  | .httpError code reason headers contentType body =>
    let body := body.take 65536
    { actionId := action.actionId, method := "GET", url := url, statusCode := code, reason := reason
      headers := match headers with
        | some headers => redactHeaders rt (dictOf headers)
        | none => []
      contentType := if headers.isSome then contentType.getD "" else ""
      bodySha256 := sha256 body, bodyExcerpt := safeExcerpt rt body, bodySizeBytes := body.length
      elapsedMs := elapsedMs, wstgIds := action.wstgIds, error := some "http_error" }
  | .osError name =>
    { actionId := action.actionId, method := "GET", url := url, statusCode := 0
      reason := "request_failed", headers := [], contentType := "", bodySha256 := sha256 []
      bodyExcerpt := "", bodySizeBytes := 0, elapsedMs := elapsedMs, wstgIds := action.wstgIds
      error := some name }

/-- `fetched` is what the request comes to, and `elapsedMs` how long it takes.
Source: `wstg_live_campaign.default_http_get_executor` -/
def defaultHttpGetExecutor (rt : Runtime) (lib : LiveUrls) (sha256 : List UInt8 → String)
    (action : ObservedAction) (runtime : CampaignTargetRuntime) (fetched : Fetched)
    (elapsedMs : ℤ) : Except Exc WSTGLiveObservation := do
  guardE (action.method == "GET" && runtime.safePaths.contains action.path)
    (liveError "executor only accepts planned safe GET actions")
  let url ← sameOriginUrl lib runtime.normalizedBaseUrl action.path
  pure (observe rt sha256 action url elapsedMs fetched)

/-! ### The stretches of an excerpt -/

/-- A character before the first stretch. -/
def consFirst (c : Char) : List (List Char) → List (List Char)
  | [] => [[c]]
  | a :: rest => (c :: a) :: rest

/-- **The stretches of a text**: what stands between two redacted values. A stretch goes on to the
name of the next one, and to the `=` that is written after it. -/
def stretches (word : Char → Bool) : ℕ → Pos → List (List Char)
  | 0, (_, cs) => [cs]
  | _ + 1, (_, []) => [[]]
  | fuel + 1, (prev, c :: cs) =>
    match nextSecret word (prev, c :: cs) with
    | some (name, pos) => (name ++ ['=']) :: stretches word fuel pos
    | none => consFirst c (stretches word fuel (some c, cs))

section excerpt

variable {rt : Runtime} {word : Char → Bool} {fuel : ℕ} {pos : Pos}

theorem consFirst_ne_nil (c : Char) (parts : List (List Char)) : consFirst c parts ≠ [] := by
  cases parts <;> exact List.cons_ne_nil _ _

theorem joined_consFirst (c : Char) (parts : List (List Char)) :
    joined (consFirst c parts) = c :: joined parts := by
  match parts with
  | [] => rfl
  | [_] => rfl
  | _ :: _ :: _ => rfl

theorem joined_cons {a : List Char} {parts : List (List Char)} (h : parts ≠ []) :
    joined (a :: parts) = a ++ placeholder ++ joined parts := by
  cases parts with
  | nil => exact absurd rfl h
  | cons b rest => rfl

theorem stretches_ne_nil : stretches word fuel pos ≠ [] := by
  unfold stretches
  split
  · exact List.cons_ne_nil _ _
  · exact List.cons_ne_nil _ _
  · split
    · exact List.cons_ne_nil _ _
    · exact consFirst_ne_nil _ _

/-- **A redacted text is its stretches with placeholders between them.** -/
theorem subSecrets_eq : subSecrets word fuel pos = joined (stretches word fuel pos) := by
  induction fuel generalizing pos with
  | zero => rfl
  | succ fuel ih =>
    obtain ⟨prev, cs⟩ := pos
    cases cs with
    | nil => rfl
    | cons c cs =>
      rw [subSecrets, stretches]
      cases nextSecret word (prev, c :: cs) with
      | none => exact (congrArg (c :: ·) ih).trans (joined_consFirst c _).symm
      | some found =>
        obtain ⟨name, pos⟩ := found
        dsimp only
        rw [joined_cons stretches_ne_nil, ← ih, List.append_assoc name ['=']]
        rfl

/-- A match has a name of five characters or more, and two more characters. -/
theorem nextSecret_length {name : List Char} {pos' : Pos}
    (h : nextSecret word pos = some (name, pos')) :
    5 ≤ name.length ∧ name.length + 2 + pos'.2.length ≤ pos.2.length := by
  obtain ⟨q, hq, hfound⟩ := List.mem_flatMap.mp (List.mem_of_head? h)
  obtain ⟨r, hr, hpair⟩ := List.mem_map.mp hfound
  obtain ⟨rfl, rfl⟩ := Prod.mk.inj hpair
  have hname := run_length hq
  have hvalue := run_length hr
  have hfive : secretName.minLength = 5 := rfl
  have htwo : secretValue.minLength = 2 := rfl
  rw [List.length_take]
  omega

/-- A redacted text is not much longer than the text. -/
theorem subSecrets_length : 7 * (subSecrets word fuel pos).length ≤ 16 * pos.2.length := by
  induction fuel generalizing pos with
  | zero =>
    rw [subSecrets]
    omega
  | succ fuel ih =>
    obtain ⟨prev, cs⟩ := pos
    cases cs with
    | nil => exact Nat.zero_le _
    | cons c cs =>
      rw [subSecrets]
      cases hnext : nextSecret word (prev, c :: cs) with
      | none =>
        have hrest := @ih (some c, cs)
        simp only [List.length_cons] at hrest ⊢
        omega
      | some found =>
        obtain ⟨name, pos⟩ := found
        have hrest := @ih pos
        obtain ⟨hname, hlength⟩ := nextSecret_length hnext
        have heleven : "=[redacted]".toList.length = 11 := by decide
        simp only [List.length_append, heleven] at hlength ⊢
        omega

/-- The stretches of a body: of its first 2000 bytes, decoded. -/
def bodyStretches (rt : Runtime) (body : List UInt8) : List (List Char) :=
  stretches (isWord rt) (decode (body.take 2000)).length (none, decode (body.take 2000))

/-- **An excerpt is the stretches of the body**, whole: the last cut cuts nothing off. -/
theorem safeExcerpt_eq (body : List UInt8) :
    safeExcerpt rt body = String.ofList (joined (bodyStretches rt body)) := by
  have hdecode := decode_length (body.take 2000)
  have htake : (body.take 2000).length ≤ 2000 := List.length_take_le 2000 body
  have hlength := @subSecrets_length (isWord rt) (decode (body.take 2000)).length
    (none, decode (body.take 2000))
  dsimp only at hlength
  have hwhole : (subSecrets (isWord rt) (decode (body.take 2000)).length
      (none, decode (body.take 2000))).take 5000 = subSecrets (isWord rt)
      (decode (body.take 2000)).length (none, decode (body.take 2000)) :=
    List.take_of_length_le (by omega)
  exact congrArg String.ofList (hwhole.trans subSecrets_eq)

end excerpt

/-! ### What is clear -/

/-- A body whose excerpt gives nothing away: neither does a stretch of it, and none but the last ends in
a label that the placeholder completes. -/
structure HarmlessBody (rt : Runtime) (body : List UInt8) : Prop where
  stretches : ∀ a ∈ bodyStretches rt body, findings rt (String.ofList a) = []
  awaits : ∀ a ∈ (bodyStretches rt body).dropLast, ∀ x ∈ openEnded, ¬ x.Awaits (isWord rt) a

/-- Headers that give nothing away: those that are kept do not. -/
def HarmlessHeaders (rt : Runtime) (headers : List (String × String)) : Prop :=
  ∀ h ∈ headers, sensitiveHeader rt h.1 = false → findings rt (cutHeader h.2) = []

/-- **A response that gives nothing away.** -/
def Fetched.Harmless (rt : Runtime) : Fetched → Prop
  | .response _ _ headers _ body =>
    HarmlessHeaders rt (dictOf headers) ∧ HarmlessBody rt (body.take 262144)
  | .httpError _ _ headers _ body =>
    HarmlessHeaders rt (dictOf (headers.getD [])) ∧ HarmlessBody rt (body.take 65536)
  | .osError _ => True

/-- **An observation in which no pattern matches.** -/
structure Redacted (rt : Runtime) (observation : WSTGLiveObservation) : Prop where
  headers : ∀ h ∈ observation.headers, findings rt h.2 = []
  excerpt : findings rt observation.bodyExcerpt = []

section clear

variable {rt : Runtime}

theorem redacted_iff {observation : WSTGLiveObservation} : Redacted rt observation ↔
    (∀ h ∈ observation.headers, findings rt h.2 = []) ∧ findings rt observation.bodyExcerpt = [] :=
  ⟨fun h => ⟨h.headers, h.excerpt⟩, fun h => ⟨h.1, h.2⟩⟩

/-- **An excerpt is clear exactly when the body is harmless.** -/
theorem safeExcerpt_clear_iff (body : List UInt8) :
    findings rt (safeExcerpt rt body) = [] ↔ HarmlessBody rt body := by
  have hstretch (a : List Char) : findings rt (String.ofList a) = [] ↔ Clear rt a := by
    rw [findings_eq_nil, String.toList_ofList]
  rw [safeExcerpt_eq, hstretch, bodyStretches, clear_joined stretches_ne_nil]
  constructor
  · rintro ⟨hclear, hawaits⟩
    exact ⟨fun a ha => (hstretch a).mpr (hclear a ha), hawaits⟩
  · rintro ⟨hclear, hawaits⟩
    exact ⟨fun a ha => (hstretch a).mp (hclear a ha), hawaits⟩

/-- **Redacted headers are clear exactly when those that are kept are.** -/
theorem redactHeaders_clear_iff {headers : List (String × String)} :
    (∀ h ∈ redactHeaders rt headers, findings rt h.2 = []) ↔ HarmlessHeaders rt headers := by
  have hplaceholder : findings rt "[redacted]" = [] := findings_of_quiet (by decide)
  unfold redactHeaders HarmlessHeaders
  rw [List.forall_mem_map]
  refine forall₂_congr fun h _ => ?_
  cases hname : sensitiveHeader rt h.1 with
  | true => simp [hplaceholder]
  | false => simp

theorem observe_redacted_iff {sha256 : List UInt8 → String} {action : ObservedAction} {url : String}
    {elapsedMs : ℤ} (fetched : Fetched) :
    Redacted rt (observe rt sha256 action url elapsedMs fetched) ↔ fetched.Harmless rt := by
  have hempty : findings rt "" = [] := findings_of_quiet (by decide)
  rw [redacted_iff]
  cases fetched with
  | response status reason headers contentType body =>
    exact and_congr redactHeaders_clear_iff (safeExcerpt_clear_iff _)
  | httpError code reason headers contentType body =>
    refine and_congr ?_ (safeExcerpt_clear_iff _)
    cases headers with
    | some headers => exact redactHeaders_clear_iff
    | none =>
      have hnone (P : String × String → Prop) : ∀ h ∈ ([] : List (String × String)), P h := nofun
      exact ⟨fun _ => hnone _, fun _ => hnone _⟩
  | osError name =>
    refine ⟨fun _ => trivial, fun _ => ⟨?_, hempty⟩⟩
    intro h hmem
    cases hmem

end clear

/-- The front page of a target. -/
def frontPage : ObservedAction where
  method := "GET"
  path := "/"
  actionId := "action-1"
  wstgIds := []

/-- `password: hunter22` -/
def passwordPage : Fetched :=
  .response 200 (some "OK") [] none
    [0x70, 0x61, 0x73, 0x73, 0x77, 0x6F, 0x72, 0x64, 0x3A, 0x20, 0x68, 0x75, 0x6E, 0x74, 0x65, 0x72,
      0x32, 0x32]

theorem passwordPage_excerpt :
    safeExcerpt Tools.sampleRuntime [0x70, 0x61, 0x73, 0x73, 0x77, 0x6F, 0x72, 0x64, 0x3A, 0x20, 0x68,
      0x75, 0x6E, 0x74, 0x65, 0x72, 0x32, 0x32] = "password=[redacted]" := by
  decide

end Aotp.Wstg
