import Aotp.Tools.Ledger
import Aotp.Wstg.Objectives

/-!
# Generated objectives and the scope

* `HasOrigin`, `ArgumentsInScope` — the arguments of an objective that name a server name the
  server of the scope.
* `selects`, `generateFrom_eq_ok` — the objectives are those of the first entries that the scope
  and the rules of engagement select.
* `objectiveId_injective` — two identifiers of a strategy map never give one objective id.
* `within_scope_iff` — **generation stays within the scope exactly where the default arguments it
  merges in do**.
-/

namespace Aotp.Wstg

open PyData Aotp.Tools

/-! ### What the arguments may name -/

/-- A URL text of an origin: the origin itself, or the origin with a path, query or fragment. -/
def HasOrigin (origin s : String) : Prop :=
  ∃ rest : List Char, s.toList = origin.toList ++ rest ∧
    ∀ c ∈ rest.head?, c = '/' ∨ c = '?' ∨ c = '#'

/-- The arguments that are host names. -/
def hostKeys : List String := ["host", "server_name"]

/-- Every URL among the arguments has the origin of the scope, every host name is its host. -/
structure ArgumentsInScope (urls : Urls) (scope : WSTGCampaignScope) (arguments : Dict) : Prop where
  urls_in : ∀ key ∈ urlKeys, ∀ v, dget? arguments key = some v →
    ∃ origin s, scope.origin urls = .ok origin ∧ v = .str s ∧ HasOrigin origin s
  hosts_in : ∀ key ∈ hostKeys, ∀ v, dget? arguments key = some v →
    ∃ host, scope.host urls = .ok host ∧ v = .str host

/-- The objectives stay within the scope. -/
structure WithinScope (urls : Urls) (scope : WSTGCampaignScope) (objectives : List WSTGObjective) :
    Prop where
  arguments : ∀ o ∈ objectives, ArgumentsInScope urls scope o.arguments
  campaign : ∀ o ∈ objectives, o.campaignId = scope.campaignId ∧ o.targetAlias = scope.targetAlias
  distinct : (objectives.map (·.objectiveId)).Nodup
  bounded : (objectives.length : ℤ) ≤ scope.maxObjectives

/-- The families whose arguments end with the default arguments of the entry. -/
def ExecutableFamily.mergesDefaults : ExecutableFamily → Bool
  | .httpMetadata | .playwrightPassiveMetadata | .wellKnownText | .tlsMetadata => false
  | _ => true

variable {rt : Runtime} {urls : Urls} {scope : WSTGCampaignScope} {roe : Option RulesOfEngagement}
  {entries : List WSTGStrategyEntry} {objectives : List WSTGObjective}

theorem HasOrigin.refl (origin : String) : HasOrigin origin origin :=
  ⟨[], by simp, by simp⟩

theorem HasOrigin.root (origin : String) : HasOrigin origin (origin ++ "/") :=
  ⟨['/'], by simp, by simp⟩

theorem dget?_merged (base : Dict) {defaults : Dict} (h : (dkeys defaults).Nodup) (key : String) :
    dget? (merged base defaults) key = (dget? defaults key).or (dget? base key) := by
  unfold merged
  induction defaults generalizing base with
  | nil => simp
  | cons e defaults ih =>
    obtain ⟨k, v⟩ := e
    have hnodup : k ∉ dkeys defaults ∧ (dkeys defaults).Nodup := by simpa [dkeys] using h
    rw [List.foldl_cons, ih _ hnodup.2, dget?_dset, dget?_cons]
    by_cases hk : key = k
    · subst hk
      simp [dget?_eq_none_of_not_mem hnodup.1]
    · simp [hk]

/-- Merging keeps the arguments in scope exactly where what is merged in is in scope, and only
those of the others count that it does not replace. -/
theorem argumentsInScope_merged {base defaults : Dict} (hnodup : (dkeys defaults).Nodup)
    (hbase : ArgumentsInScope urls scope base) :
    ArgumentsInScope urls scope (merged base defaults) ↔
      ArgumentsInScope urls scope defaults := by
  have hget := dget?_merged base hnodup
  constructor
  · intro h
    constructor
    · intro key hkey v hv
      exact h.urls_in key hkey v (by simp [hget, hv])
    · intro key hkey v hv
      exact h.hosts_in key hkey v (by simp [hget, hv])
  · intro h
    constructor
    · intro key hkey v hv
      rw [hget, Option.or_eq_some_iff] at hv
      rcases hv with hv | ⟨-, hv⟩
      · exact h.urls_in key hkey v hv
      · exact hbase.urls_in key hkey v hv
    · intro key hkey v hv
      rw [hget, Option.or_eq_some_iff] at hv
      rcases hv with hv | ⟨-, hv⟩
      · exact h.hosts_in key hkey v hv
      · exact hbase.hosts_in key hkey v hv

/-- One URL of the scope among arguments that name no server. -/
theorem argumentsInScope_url {origin s key : String} {rest : Dict}
    (horigin : scope.origin urls = .ok origin) (hs : HasOrigin origin s) (hkey : key ∉ hostKeys)
    (hrest : ArgumentsInScope urls scope rest) :
    ArgumentsInScope urls scope ((key, .str s) :: rest) := by
  constructor
  · intro key' hkey' v hv
    rw [dget?_cons] at hv
    by_cases hk : key' = key
    · rw [if_pos hk, Option.some.injEq] at hv
      exact ⟨origin, s, horigin, hv.symm, hs⟩
    · rw [if_neg hk] at hv
      exact hrest.urls_in key' hkey' v hv
  · intro key' hkey' v hv
    have hk : key' ≠ key := fun hk => hkey (hk ▸ hkey')
    rw [dget?_cons, if_neg hk] at hv
    exact hrest.hosts_in key' hkey' v hv

/-- An argument that names no server. -/
theorem argumentsInScope_other {key : String} {v : Json} {rest : Dict} (hurl : key ∉ urlKeys)
    (hhost : key ∉ hostKeys) (hrest : ArgumentsInScope urls scope rest) :
    ArgumentsInScope urls scope ((key, v) :: rest) := by
  constructor
  · intro key' hkey' w hw
    have hk : key' ≠ key := fun hk => hurl (hk ▸ hkey')
    rw [dget?_cons, if_neg hk] at hw
    exact hrest.urls_in key' hkey' w hw
  · intro key' hkey' w hw
    have hk : key' ≠ key := fun hk => hhost (hk ▸ hkey')
    rw [dget?_cons, if_neg hk] at hw
    exact hrest.hosts_in key' hkey' w hw

/-- A host name of the scope. -/
theorem argumentsInScope_host {host key : String} {rest : Dict}
    (hhost : scope.host urls = .ok host) (hkey : key ∉ urlKeys)
    (hrest : ArgumentsInScope urls scope rest) :
    ArgumentsInScope urls scope ((key, .str host) :: rest) := by
  constructor
  · intro key' hkey' v hv
    have hk : key' ≠ key := fun hk => hkey (hk ▸ hkey')
    rw [dget?_cons, if_neg hk] at hv
    exact hrest.urls_in key' hkey' v hv
  · intro key' hkey' v hv
    rw [dget?_cons] at hv
    by_cases hk : key' = key
    · rw [if_pos hk, Option.some.injEq] at hv
      exact ⟨host, hhost, hv.symm⟩
    · rw [if_neg hk] at hv
      exact hrest.hosts_in key' hkey' v hv

theorem argumentsInScope_nil : ArgumentsInScope urls scope [] := by
  constructor <;> simp

/-- What `_arguments_for` returns: arguments in scope, with the default arguments merged in or
not. -/
theorem argumentsFor_eq_ok {e : WSTGStrategyEntry} {arguments : Dict}
    (h : argumentsFor urls e scope = .ok arguments) :
    ∃ base, ArgumentsInScope urls scope base ∧
      arguments = if e.family.mergesDefaults then merged base e.defaultArguments else base := by
  cases hfamily : e.family with
  | httpMetadata | playwrightPassiveMetadata =>
    simp only [argumentsFor, hfamily, bind_eq_ok, pure, Except.pure, Except.ok.injEq] at h
    obtain ⟨origin, horigin, rfl⟩ := h
    exact ⟨_, argumentsInScope_url horigin (HasOrigin.root _) (by decide) argumentsInScope_nil, rfl⟩
  | wellKnownText =>
    simp only [argumentsFor, hfamily, bind_eq_ok, pure, Except.pure, Except.ok.injEq] at h
    obtain ⟨origin, horigin, rfl⟩ := h
    exact ⟨_, argumentsInScope_url horigin (HasOrigin.refl _) (by decide) argumentsInScope_nil, rfl⟩
  | tlsMetadata =>
    simp only [argumentsFor, hfamily, bind_eq_ok, pure, Except.pure, Except.ok.injEq] at h
    obtain ⟨host, hhost, port, -, rfl⟩ := h
    have hserver : ArgumentsInScope urls scope [("server_name", .str host)] :=
      argumentsInScope_host hhost (by decide) argumentsInScope_nil
    have hport : ArgumentsInScope urls scope [("port", .int port), ("server_name", .str host)] :=
      argumentsInScope_other (by decide) (by decide) hserver
    exact ⟨_, argumentsInScope_host hhost (by decide) hport, rfl⟩
  | zapPassiveBaseline =>
    simp only [argumentsFor, hfamily, bind_eq_ok, pure, Except.pure, Except.ok.injEq] at h
    obtain ⟨origin, horigin, rfl⟩ := h
    exact ⟨_, argumentsInScope_url horigin (HasOrigin.root _) (by decide) argumentsInScope_nil, rfl⟩
  | authBoundary | sessionManagement | errorHandling | inputBoundary | coverageReport =>
    simp only [argumentsFor, hfamily, bind_eq_ok, pure, Except.pure, Except.ok.injEq] at h
    obtain ⟨origin, horigin, rfl⟩ := h
    have hid : ArgumentsInScope urls scope [("wstg_id", .str e.wstgId)] :=
      argumentsInScope_other (by decide) (by decide) argumentsInScope_nil
    have hurl : ArgumentsInScope urls scope
        [("base_url", .str origin), ("wstg_id", .str e.wstgId)] :=
      argumentsInScope_url horigin (HasOrigin.refl _) (by decide) hid
    exact ⟨_, argumentsInScope_other (by decide) (by decide) hurl, rfl⟩

/-- **The arguments of an entry are in scope exactly where its default arguments are**, for the
families that merge them in; for the others they always are. -/
theorem argumentsInScope_iff {e : WSTGStrategyEntry} {arguments : Dict}
    (hnodup : (dkeys e.defaultArguments).Nodup) (h : argumentsFor urls e scope = .ok arguments) :
    ArgumentsInScope urls scope arguments ↔
      (e.family.mergesDefaults = true → ArgumentsInScope urls scope e.defaultArguments) := by
  obtain ⟨base, hbase, rfl⟩ := argumentsFor_eq_ok h
  cases e.family.mergesDefaults with
  | true => simpa using argumentsInScope_merged hnodup hbase
  | false => simpa using hbase

/-! ### The entries that give an objective -/

/-- The scope, and the rules of engagement if any, let an entry through. -/
def selects (rt : Runtime) (urls : Urls) (scope : WSTGCampaignScope)
    (roe : Option RulesOfEngagement) (e : WSTGStrategyEntry) : Bool :=
  entryAllowed e scope &&
    match argumentsFor urls e scope with
    | .ok arguments => decide ((optionalReasons rt urls roe e arguments).toOption = some [])
    | .error _ => false

/-- The entries whose objectives are generated: the first that are selected, up to the limit. -/
def selected (rt : Runtime) (urls : Urls) (scope : WSTGCampaignScope)
    (roe : Option RulesOfEngagement) (room : ℕ) (entries : List WSTGStrategyEntry) :
    List WSTGStrategyEntry :=
  (entries.filter (selects rt urls scope roe)).take room

/-- The objective is the one of the entry. -/
def IsObjectiveOf (rt : Runtime) (urls : Urls) (scope : WSTGCampaignScope) (e : WSTGStrategyEntry)
    (o : WSTGObjective) : Prop :=
  ∃ arguments, argumentsFor urls e scope = .ok arguments ∧ o = objectiveOf rt scope e arguments

/-- **The objectives are those of the selected entries**, in their order. -/
theorem generateFrom_eq_ok {room : ℕ} (h : generateFrom rt urls scope roe room entries =
    .ok objectives) :
    List.Forall₂ (IsObjectiveOf rt urls scope) (selected rt urls scope roe room entries)
      objectives := by
  unfold selected
  induction entries generalizing room objectives with
  | nil =>
    cases room <;> cases h <;> simp
  | cons e es ih =>
    cases room with
    | zero => cases h; simp
    | succ room =>
      unfold generateFrom at h
      by_cases hallowed : entryAllowed e scope = true
      · rw [if_pos hallowed] at h
        simp only [bind_eq_ok] at h
        obtain ⟨arguments, hargs, reasons, hreasons, h⟩ := h
        by_cases hempty : reasons.isEmpty = true
        · have hselects : selects rt urls scope roe e = true := by
            simp [selects, hallowed, hargs, hreasons, Except.toOption,
              List.isEmpty_iff.mp hempty]
          rw [if_pos hempty] at h
          simp only [bind_eq_ok, pure, Except.pure, Except.ok.injEq] at h
          obtain ⟨rest, hrest, rfl⟩ := h
          rw [List.filter_cons_of_pos hselects, List.take_succ_cons]
          exact .cons ⟨arguments, hargs, rfl⟩ (ih hrest)
        · have hselects : ¬ selects rt urls scope roe e = true := by
            have hne : reasons ≠ [] := fun hr => hempty (by simp [hr])
            simp [selects, hargs, hreasons, Except.toOption, hne]
          rw [if_neg hempty] at h
          rw [List.filter_cons_of_neg hselects]
          exact ih h
      · have hselects : ¬ selects rt urls scope roe e = true := by
          simp [selects, hallowed]
        rw [if_neg hallowed] at h
        rw [List.filter_cons_of_neg hselects]
        exact ih h

/-! ### Distinct ids -/

/-- `str.lower` on ASCII texts. -/
def LowersAscii (rt : Runtime) : Prop :=
  ∀ s : String, (∀ c ∈ s.toList, c.toNat < 128) →
    (rt.lower s).toList = s.toList.map Char.toLower

/-- What `_objective_id` makes of a character. -/
def idChar (c : Char) : Char := if c.toLower = '-' then '_' else c.toLower

/-- The character it came from, for those of an identifier after its prefix. -/
def wstgChar (c : Char) : Char := if c = '_' then '-' else c.toUpper

/-- The characters of an identifier after its prefix. -/
def isIdChar (c : Char) : Bool := isCapital c || isDigit c || c == '-'

theorem lt_of_isIdChar {c : Char} (h : isIdChar c = true) : c.toNat < 128 := by
  have hle : ∀ {a b : Char}, a ≤ b → a.toNat ≤ b.toNat := fun hab => hab
  simp only [isIdChar, isCapital, isDigit, Bool.or_eq_true, Bool.and_eq_true, decide_eq_true_eq,
    beq_iff_eq] at h
  rcases h with (⟨-, h⟩ | ⟨-, h⟩) | rfl
  · have := hle h
    have hz : 'Z'.toNat = 90 := rfl
    omega
  · have := hle h
    have hnine : '9'.toNat = 57 := rfl
    omega
  · decide

theorem wstgChar_idChar {c : Char} (h : isIdChar c = true) : wstgChar (idChar c) = c := by
  have hall : ∀ n < 128, isIdChar (Char.ofNat n) = true →
      wstgChar (idChar (Char.ofNat n)) = Char.ofNat n := by decide
  have hc := hall c.toNat (lt_of_isIdChar h)
  rw [Char.ofNat_toNat] at hc
  exact hc h

/-- An identifier is its fixed prefix and characters that lower case keeps apart. -/
theorem rest_of_isWstgId {id : List Char} (h : isWstgId id = true) :
    ∃ rest, id = 'W' :: 'S' :: 'T' :: 'G' :: '-' :: 'v' :: rest ∧
      ∀ c ∈ rest, isIdChar c = true := by
  unfold isWstgId at h
  split at h
  · rename_i rest
    refine ⟨rest, rfl, fun c hc => ?_⟩
    rw [Bool.and_eq_true] at h
    rw [← List.takeWhile_append_dropWhile (p := isDigit) (l := rest), List.mem_append] at hc
    rcases hc with hc | hc
    · have hdigit := List.all_eq_true.mp List.all_takeWhile c hc
      simp [isIdChar, hdigit]
    · have htail := h.2
      unfold isIdTail at htail
      split at htail
      · rename_i a b c' d x y heq
        rw [heq] at hc
        simp only [List.all_cons, List.all_nil, Bool.and_true, Bool.and_eq_true] at htail
        obtain ⟨⟨ha, hb, hc', hd⟩, hx, hy⟩ := htail
        simp only [List.mem_cons, List.not_mem_nil, or_false] at hc
        rcases hc with rfl | rfl | rfl | rfl | rfl | rfl | rfl | rfl <;> simp_all [isIdChar]
      · cases htail
  · cases h

theorem lt_of_isWstgId {id : List Char} (h : isWstgId id = true) : ∀ c ∈ id, c.toNat < 128 := by
  obtain ⟨rest, rfl, hrest⟩ := rest_of_isWstgId h
  intro c hc
  simp only [List.mem_cons] at hc
  rcases hc with rfl | rfl | rfl | rfl | rfl | rfl | hc
  all_goals first | decide | exact lt_of_isIdChar (hrest c hc)

theorem objectiveId_toList (hlower : LowersAscii rt) {e : WSTGStrategyEntry}
    (h : isWstgId e.wstgId.toList = true) :
    (objectiveId rt e).toList = e.wstgId.toList.map idChar := by
  unfold objectiveId
  rw [String.toList_ofList, hlower e.wstgId (lt_of_isWstgId h), List.map_map]
  rfl

/-- **Two entries never share an objective id** without sharing their identifier. -/
theorem objectiveId_injective (hlower : LowersAscii rt) {e e' : WSTGStrategyEntry}
    (h : isWstgId e.wstgId.toList = true) (h' : isWstgId e'.wstgId.toList = true)
    (heq : objectiveId rt e = objectiveId rt e') : e.wstgId = e'.wstgId := by
  have hmap : e.wstgId.toList.map idChar = e'.wstgId.toList.map idChar := by
    rw [← objectiveId_toList hlower h, ← objectiveId_toList hlower h', heq]
  obtain ⟨rest, hrest, hchars⟩ := rest_of_isWstgId h
  obtain ⟨rest', hrest', hchars'⟩ := rest_of_isWstgId h'
  have hback : ∀ l : List Char, (∀ c ∈ l, isIdChar c = true) →
      (l.map idChar).map wstgChar = l := by
    intro l hl
    rw [List.map_map]
    exact (List.map_congr_left fun c hc => wstgChar_idChar (hl c hc)).trans (List.map_id l)
  have htail : rest.map idChar = rest'.map idChar := by
    simpa [hrest, hrest'] using hmap
  have hsame : rest = rest' := by
    rw [← hback rest hchars, ← hback rest' hchars', htail]
  apply String.toList_inj.mp
  rw [hrest, hrest', hsame]

theorem not_mem_seen {seen : List String} {es : List WSTGStrategyEntry}
    (h : rejectDuplicates seen es = .ok ()) :
    (es.map (·.wstgId)).Nodup ∧ ∀ e ∈ es, e.wstgId ∉ seen := by
  induction es generalizing seen with
  | nil => simp
  | cons e es ih =>
    simp only [rejectDuplicates, bind_eq_ok, guardE_eq_ok, decide_eq_true_eq] at h
    obtain ⟨-, hnew, hrest⟩ := h
    obtain ⟨hnodup, hseen⟩ := ih hrest
    refine ⟨List.nodup_cons.mpr ⟨?_, hnodup⟩, ?_⟩
    · intro hmem
      obtain ⟨e', he', heq⟩ := List.mem_map.mp hmem
      exact hseen e' he' (heq ▸ List.mem_cons_self)
    · intro e' he'
      rcases List.mem_cons.mp he' with rfl | he'
      · exact hnew
      · exact fun hmem => hseen e' he' (List.mem_cons_of_mem _ hmem)

/-- A strategy map holds the entries it was built from, each identifier once. -/
theorem strategyMap_eq_ok {given : List WSTGStrategyEntry} (h : strategyMap given = .ok entries) :
    (entries.map (·.wstgId)).Nodup ∧ ∀ e ∈ entries, e ∈ given := by
  simp only [strategyMap, bind_eq_ok, pure, Except.pure, Except.ok.injEq] at h
  obtain ⟨-, -, ⟨⟩, hdup, rfl⟩ := h
  refine ⟨(not_mem_seen hdup).1, fun e he => ?_⟩
  exact (List.mem_insertionSort _).mp he

/-! ### Within the scope -/

/-- What the constructors accept: the scope, each entry, whose default arguments are a mapping, and
the map of the entries. -/
structure Accepted (lib : WstgLibrary) (urls : Urls) (scope : WSTGCampaignScope)
    (given entries : List WSTGStrategyEntry) : Prop where
  scope_ok : scope.postInit urls = .ok ()
  entries_ok : ∀ e ∈ given, e.postInit lib = .ok ()
  defaults_ok : ∀ e ∈ given, (dkeys e.defaultArguments).Nodup
  map_ok : strategyMap given = .ok entries

variable {lib : WstgLibrary} {given : List WSTGStrategyEntry}

theorem Accepted.nodup (h : Accepted lib urls scope given entries) :
    (entries.map (·.wstgId)).Nodup :=
  (strategyMap_eq_ok h.map_ok).1

theorem Accepted.isWstgId (h : Accepted lib urls scope given entries) {e : WSTGStrategyEntry}
    (he : e ∈ entries) : isWstgId e.wstgId.toList = true := by
  have hok := h.entries_ok e ((strategyMap_eq_ok h.map_ok).2 e he)
  simp only [WSTGStrategyEntry.postInit, bind_eq_ok, guardE_eq_ok] at hok
  obtain ⟨-, hid, -⟩ := hok
  exact hid

theorem Accepted.maxObjectives_pos (h : Accepted lib urls scope given entries) :
    1 ≤ scope.maxObjectives := by
  have hok := h.scope_ok
  simp only [WSTGCampaignScope.postInit, bind_eq_ok, guardE_eq_ok, decide_eq_true_eq] at hok
  obtain ⟨-, -, -, -, -, -, -, -, -, -, -, -, -, -, -, -, -, -, -, -, hmax⟩ := hok
  exact hmax

theorem mem_of_mem_selected {room : ℕ} {e : WSTGStrategyEntry}
    (h : e ∈ selected rt urls scope roe room entries) : e ∈ entries :=
  List.mem_of_mem_filter (List.mem_of_mem_take h)

/-- The ids of the objectives of distinct entries are distinct. -/
theorem nodup_objectiveId (hlower : LowersAscii rt) {es : List WSTGStrategyEntry}
    (hids : ∀ e ∈ es, isWstgId e.wstgId.toList = true) (hnodup : (es.map (·.wstgId)).Nodup)
    (h : List.Forall₂ (IsObjectiveOf rt urls scope) es objectives) :
    (objectives.map (·.objectiveId)).Nodup := by
  have hmap : objectives.map (·.objectiveId) = es.map (objectiveId rt) := by
    clear hids hnodup
    induction h with
    | nil => rfl
    | cons ho _ ih =>
      obtain ⟨arguments, -, rfl⟩ := ho
      rw [List.map_cons, List.map_cons, ih]
      rfl
  rw [hmap]
  apply List.Nodup.map_on _ (List.Nodup.of_map _ hnodup)
  intro e he e' he' heq
  exact List.inj_on_of_nodup_map hnodup he he'
    (objectiveId_injective hlower (hids e he) (hids e' he') heq)

/-- **Generation stays within the scope exactly where the merged defaults do**: the objectives name
no other server, campaign or target, have distinct ids and are at most as many as the scope allows,
if and only if every selected entry of a merging family has its default arguments in scope. -/
theorem within_scope_iff (hlower : LowersAscii rt)
    (haccepted : Accepted lib urls scope given entries)
    (h : generateWstgObjectives rt urls scope entries roe = .ok objectives) :
    WithinScope urls scope objectives ↔
      ∀ e ∈ selected rt urls scope roe scope.maxObjectives.toNat entries,
        e.family.mergesDefaults = true → ArgumentsInScope urls scope e.defaultArguments := by
  have hall := generateFrom_eq_ok h
  have hmem : ∀ e ∈ selected rt urls scope roe scope.maxObjectives.toNat entries, e ∈ entries :=
    fun e he => mem_of_mem_selected he
  have hdefaults : ∀ e ∈ entries, (dkeys e.defaultArguments).Nodup := fun e he =>
    haccepted.defaults_ok e ((strategyMap_eq_ok haccepted.map_ok).2 e he)
  have hsub : (selected rt urls scope roe scope.maxObjectives.toNat entries).Sublist entries :=
    (List.take_sublist _ _).trans List.filter_sublist
  constructor
  · intro hwithin e he
    obtain ⟨o, ho, arguments, hargs, rfl⟩ := forall₂_exists hall he
    exact (argumentsInScope_iff (hdefaults e (hmem e he)) hargs).mp
      (hwithin.arguments _ ho)
  · intro hscope
    have hof : ∀ o ∈ objectives,
        ∃ e ∈ selected rt urls scope roe scope.maxObjectives.toNat entries,
          IsObjectiveOf rt urls scope e o := fun o ho => forall₂_exists hall.flip ho
    constructor
    · intro o ho
      obtain ⟨e, he, arguments, hargs, rfl⟩ := hof o ho
      exact (argumentsInScope_iff (hdefaults e (hmem e he)) hargs).mpr (hscope e he)
    · intro o ho
      obtain ⟨e, he, arguments, -, rfl⟩ := hof o ho
      exact ⟨rfl, rfl⟩
    · exact nodup_objectiveId hlower (fun e he => haccepted.isWstgId (hmem e he))
        (haccepted.nodup.sublist (hsub.map _)) hall
    · have hlength : objectives.length ≤ scope.maxObjectives.toNat := by
        rw [← hall.length_eq]
        exact List.length_take_le _ _
      have hpos := haccepted.maxObjectives_pos
      omega

/-! ### A scan with default arguments -/

/-- `urlsplit` of two origins. -/
def pageUrls : Urls where
  urlsplit s :=
    if s = "https://example.com/" then .ok { scheme := "https", hostname := some "example.com" }
    else if s = "https://other.example/" then
      .ok { scheme := "https", hostname := some "other.example" }
    else .error (.valueError "unknown URL")

/-- A catalog of one case. -/
def configurationLibrary : WstgLibrary where
  isupper s := s.toList.all isCapital
  caseById id :=
    if id = "WSTG-v42-CONF-02" then .ok ("CONF", "Test Application Platform Configuration")
    else .error (.valueError "unknown WSTG identifier")

/-- The passive scan of the platform configuration. -/
def scanEntry (defaults : Dict) : WSTGStrategyEntry where
  wstgId := "WSTG-v42-CONF-02"
  version := "v42"
  category := "CONF"
  name := "Test Application Platform Configuration"
  phase := .validation
  family := .zapPassiveBaseline
  toolName := "zap_passive_baseline"
  riskTier := .passiveScanner
  evidenceClassification := "restricted"
  evidenceRequired := ["zap_json", "scoped_crawl_summary"]
  requiresHumanApproval := true
  defaultArguments := defaults

/-- A scope of one origin that approves the scan. -/
def pageScope : WSTGCampaignScope where
  campaignId := "campaign-1"
  targetAlias := "target-1"
  baseUrl := "https://example.com/"
  authorizationReference := "ref-1"
  operatorApproved := true
  allowedPhases := [.validation]
  approvedFamilies := [.zapPassiveBaseline]
  allowActiveValidation := true

theorem lowersAscii_sampleRuntime : LowersAscii sampleRuntime := by
  intro s _
  exact String.toList_ofList

theorem accepted_scanEntry {defaults : Dict} (h : (dkeys defaults).Nodup) :
    Accepted configurationLibrary pageUrls pageScope [scanEntry defaults] [scanEntry defaults] where
  scope_ok := by decide
  entries_ok := by
    intro e he
    rw [List.mem_singleton.mp he]
    show (scanEntry []).postInit configurationLibrary = .ok ()
    decide
  defaults_ok := by
    intro e he
    rw [List.mem_singleton.mp he]
    exact h
  map_ok := rfl

/-- The scan, with its own limit as the only default argument, stays within the scope. -/
theorem within_scope_iff_limited : ∃ objectives,
    generateWstgObjectives sampleRuntime pageUrls pageScope [scanEntry [("max_minutes", .int 1)]]
      none = .ok objectives ∧ objectives.length = 1 ∧ WithinScope pageUrls pageScope objectives := by
  have haccepted : Accepted configurationLibrary pageUrls pageScope
      [scanEntry [("max_minutes", .int 1)]] [scanEntry [("max_minutes", .int 1)]] :=
    accepted_scanEntry (by decide)
  obtain ⟨objectives, hgenerated, hlength⟩ : ∃ objectives,
      generateWstgObjectives sampleRuntime pageUrls pageScope [scanEntry [("max_minutes", .int 1)]]
        none = .ok objectives ∧ objectives.length = 1 := ⟨_, rfl, rfl⟩
  refine ⟨objectives, hgenerated, hlength, ?_⟩
  refine (within_scope_iff lowersAscii_sampleRuntime haccepted hgenerated).mpr ?_
  intro e he _
  rw [List.mem_singleton.mp (mem_of_mem_selected he)]
  exact argumentsInScope_other (by decide) (by decide) argumentsInScope_nil

/-- **A default argument moves the scan to another server.** -/
theorem scan_leaves_scope : ¬ ∀ (rt : Runtime) (urls : Urls) (lib : WstgLibrary)
    (scope : WSTGCampaignScope) (given entries : List WSTGStrategyEntry)
    (roe : Option RulesOfEngagement) (objectives : List WSTGObjective), LowersAscii rt →
    Accepted lib urls scope given entries →
    generateWstgObjectives rt urls scope entries roe = .ok objectives →
    WithinScope urls scope objectives := by
  intro hall
  have haccepted : Accepted configurationLibrary pageUrls pageScope
      [scanEntry [("target_url", .str "https://other.example/")]]
      [scanEntry [("target_url", .str "https://other.example/")]] :=
    accepted_scanEntry (by decide)
  have hwithin := hall sampleRuntime pageUrls configurationLibrary pageScope _ _ none _
    lowersAscii_sampleRuntime haccepted rfl
  obtain ⟨origin, s, horigin, hs, rest, hrest, -⟩ :=
    (hwithin.arguments _ List.mem_cons_self).urls_in "target_url" (by decide) _ rfl
  have horigin' : origin = "https://example.com" := (Except.ok.inj horigin).symm
  have hs' : s = "https://other.example/" := (Json.str.inj hs).symm
  subst horigin' hs'
  have hprefix := congrArg (List.take 9) hrest
  revert hprefix
  simp

end Aotp.Wstg
