import Aotp.Gate.PolicyGate

/-!
# What the parsers complain about

* `Foreign` — a text with a letter that neither the reason that opens the human gate nor the word for
  an allowed decision has; so it is neither of the two.
* `Raises`, `Complaint` — what a computation may raise; a `ConfigError` with such a text.
* `Raises.parseScope`, `Raises.parseProgramProfile`, `Raises.parseOperatorApproval` — **the parsers
  raise nothing else**.
-/

namespace Aotp.Gate

open PyData

/-! ### Texts -/

/-- The reason that opens the human gate. -/
def humanReason : String := "human approval is required"

/-- A letter in neither the reason that opens the human gate nor the word for an allowed decision. -/
def strange (c : Char) : Bool := c == 'b' || c == 'c' || c == 'f' || c == 'g' || c == 't'

/-- A text with such a letter. -/
def Foreign (t : String) : Prop := ∃ c ∈ t.toList, strange c = true

namespace Foreign

variable {s t : String}

/-- A literal is foreign when one of its letters is strange. -/
theorem lit {cs : List Char} (h : cs.any strange = true) : Foreign (String.ofList cs) := by
  unfold Foreign
  rw [String.toList_ofList]
  exact List.any_eq_true.mp h

theorem ne_of_plain (h : Foreign t) (hs : s.toList.any strange = false) : t ≠ s := by
  rintro rfl
  rw [List.any_eq_true.mpr h] at hs
  cases hs

theorem ne_humanReason (h : Foreign t) : t ≠ humanReason := h.ne_of_plain (by decide)

theorem ne_allowed (h : Foreign t) : t ≠ "allowed" := h.ne_of_plain (by decide)

theorem left (h : Foreign s) (t : String) : Foreign (s ++ t) := by
  obtain ⟨c, hc, hnot⟩ := h
  refine ⟨c, ?_, hnot⟩
  rw [String.toList_append]
  exact List.mem_append_left _ hc

theorem right (s : String) (h : Foreign t) : Foreign (s ++ t) := by
  obtain ⟨c, hc, hnot⟩ := h
  refine ⟨c, ?_, hnot⟩
  rw [String.toList_append]
  exact List.mem_append_right _ hc

end Foreign

/-! ### The parsers -/

/-- What a computation raises satisfies `P`. -/
def Raises {α : Type} (P : Exc → Prop) (x : Except Exc α) : Prop := ∀ e, x = .error e → P e

/-- A `ConfigError` with a foreign text. -/
def Complaint (e : Exc) : Prop := ∃ msg, e = configError msg ∧ Foreign msg

namespace Raises

variable {α β : Type} {P : Exc → Prop}

theorem pure (a : α) : Raises P (Pure.pure a : Except Exc α) := nofun

theorem error {e : Exc} (h : P e) : Raises P (.error e : Except Exc α) := by
  rintro _ ⟨⟩
  exact h

theorem bind {x : Except Exc α} {f : α → Except Exc β} (hx : Raises P x)
    (hf : ∀ a, Raises P (f a)) : Raises P (x >>= f) := by
  intro e h
  rcases bind_eq_error.mp h with h | ⟨a, -, h⟩
  · exact hx e h
  · exact hf a e h

theorem guardE (c : Bool) {e : Exc} (h : P e) : Raises P (PyData.guardE c e) := by
  cases c
  · exact error h
  · exact pure ()

theorem mapIdxE {f : ℕ → α → Except Exc β} (hf : ∀ i x, Raises P (f i x)) (i : ℕ)
    (xs : List α) : Raises P (PyData.mapIdxE f i xs) := by
  induction xs generalizing i with
  | nil => exact pure []
  | cons x xs ih => exact bind (hf i x) fun _ => bind (ih (i + 1)) fun _ => pure _

/-- A check whose message is foreign. -/
theorem check (c : Bool) {msg : String} (h : Foreign msg) :
    Raises Complaint (PyData.guardE c (configError msg)) :=
  guardE c ⟨msg, rfl, h⟩

theorem complain {msg : String} (h : Foreign msg) :
    Raises Complaint (.error (configError msg) : Except Exc α) :=
  error ⟨msg, rfl, h⟩

theorem requireMapping (v : Json) (field : String) : Raises Complaint (requireMapping v field) := by
  have hmust : Foreign (field ++ " must be a mapping") := .right _ (.lit rfl)
  cases v <;> first | exact complain hmust | exact pure _

theorem requireList (v : Json) (field : String) : Raises Complaint (requireList v field) := by
  have hmust : Foreign (field ++ " must be a list") := .right _ (.lit rfl)
  cases v <;> first | exact complain hmust | exact pure _

theorem requireText (v : Json) (field : String) : Raises Complaint (requireText v field) := by
  have hmust : Foreign (field ++ " must be non-empty text") := .right _ (.lit rfl)
  unfold Gate.requireText
  split
  · split
    · exact complain hmust
    · exact pure _
  · exact complain hmust

theorem requireBool (v : Json) (field : String) : Raises Complaint (requireBool v field) := by
  have hmust : Foreign (field ++ " must be true or false") := .right _ (.lit rfl)
  cases v <;> first | exact complain hmust | exact pure _

theorem requirePositiveInt (v : Json) (field : String) :
    Raises Complaint (requirePositiveInt v field) := by
  have hmust : Foreign (field ++ " must be a positive integer") := .right _ (.lit rfl)
  unfold Gate.requirePositiveInt
  split
  · split
    · exact pure _
    · exact complain hmust
  · exact complain hmust

theorem requireNonNegativeInt (v : Json) (field : String) :
    Raises Complaint (requireNonNegativeInt v field) := by
  have hmust : Foreign (field ++ " must be a non-negative integer") := .right _ (.lit rfl)
  unfold Gate.requireNonNegativeInt
  split
  · split
    · exact pure _
    · exact complain hmust
  · exact complain hmust

theorem requireTextList (v : Json) (field : String) (allowEmpty : Bool) :
    Raises Complaint (requireTextList v field allowEmpty) :=
  bind (requireList _ _) fun _ => bind (check _ (.right _ (.lit rfl))) fun _ =>
    mapIdxE (fun _ _ => requireText _ _) _ _

theorem rejectUnknown (m : Dict) (allowed : List String) (field : String) :
    Raises Complaint (rejectUnknown m allowed field) :=
  check _ (.left (.right _ (.lit rfl)) _)

theorem validateUnique (values : List String) (field : String) :
    Raises Complaint (validateUnique values field) :=
  check _ (.right _ (.lit rfl))

theorem requireTexts (document : Dict) (fields : List String) :
    Raises Complaint (requireTexts document fields) := by
  induction fields with
  | nil => exact pure ()
  | cons f fs ih => exact bind (requireText _ _) fun _ => ih

theorem parseSchemaVersion (document : Dict) : Raises Complaint (parseSchemaVersion document) :=
  bind (requireText _ _) fun _ => bind (check _ (.left (.lit rfl) _)) fun _ => pure _

theorem parseRulesOfEngagement (scope : Dict) :
    Raises Complaint (parseRulesOfEngagement scope) := by
  unfold Gate.parseRulesOfEngagement
  refine bind (requireMapping _ _) fun _ => bind (rejectUnknown _ _ _) fun _ => ?_
  exact bind (requireBool _ _) fun _ => bind (requireText _ _) fun _ =>
    bind (requireText _ _) fun _ => bind (requireText _ _) fun _ => bind (requireBool _ _) fun _ =>
    bind (requireBool _ _) fun _ => bind (requireBool _ _) fun _ => bind (requireBool _ _) fun _ =>
    bind (requireText _ _) fun _ => pure _

theorem parseTarget (i : ℕ) (x : Json) : Raises Complaint (parseTarget i x) := by
  unfold Gate.parseTarget
  exact bind (requireMapping _ _) fun _ => bind (rejectUnknown _ _ _) fun _ =>
    bind (requireText _ _) fun _ => bind (requireTextList _ _ _) fun _ =>
    bind (requireTextList _ _ _) fun _ => bind (requireTextList _ _ _) fun _ =>
    bind (requireTextList _ _ _) fun _ => bind (requireTextList _ _ _) fun _ => pure _

theorem parseTargets (scope : Dict) : Raises Complaint (parseTargets scope) :=
  bind (requireList _ _) fun _ => bind (mapIdxE parseTarget _ _) fun _ =>
    bind (validateUnique _ _) fun _ => pure _

theorem parsePanel (aliases : List String) (i : ℕ) (x : Json) :
    Raises Complaint (parsePanel aliases i x) := by
  unfold Gate.parsePanel
  refine bind (requireMapping _ _) fun _ => bind (rejectUnknown _ _ _) fun _ =>
    bind (requireText _ _) fun _ => bind (check _ (.left (.right _ (.lit rfl)) _)) fun _ =>
    bind (requireText _ _) fun _ => bind (check _ (.right _ (.lit rfl))) fun _ => ?_
  exact bind (requireTextList _ _ _) fun _ => bind (requireTextList _ _ _) fun _ =>
    bind (validateUnique _ _) fun _ => bind (validateUnique _ _) fun _ =>
    bind (check _ (.left (.right _ (.lit rfl)) _)) fun _ =>
    bind (check _ (.left (.right _ (.lit rfl)) _)) fun _ =>
    bind (check _ (.left (.right _ (.lit rfl)) _)) fun _ =>
    bind (requireText _ _) fun _ => bind (requireText _ _) fun _ => pure _

theorem parsePanels (scope : Dict) (aliases : List String) :
    Raises Complaint (parsePanels scope aliases) :=
  bind (requireMapping _ _) fun _ => bind (rejectUnknown _ _ _) fun _ =>
    bind (requireBool _ _) fun _ => bind (requireList _ _) fun _ =>
    bind (mapIdxE (parsePanel aliases) _ _) fun _ => bind (validateUnique _ _) fun _ => pure _

theorem parseFuzzingActions (fuzzing : Dict) : Raises Complaint (parseFuzzingActions fuzzing) :=
  bind (requireTextList _ _ _) fun _ => bind (requireTextList _ _ _) fun _ =>
    bind (validateUnique _ _) fun _ => bind (validateUnique _ _) fun _ =>
    bind (check _ (.left (.lit rfl) _)) fun _ =>
    bind (check _ (.left (.lit rfl) _)) fun _ =>
    bind (check _ (.left (.lit rfl) _)) fun _ => pure _

theorem parseFuzzing (scope : Dict) : Raises Complaint (parseFuzzing scope) := by
  unfold Gate.parseFuzzing
  refine bind (requireMapping _ _) fun _ => bind (rejectUnknown _ _ _) fun _ =>
    bind (requireBool _ _) fun _ => bind (requireBool _ _) fun _ =>
    bind (parseFuzzingActions _) fun _ => bind (requireTextList _ _ _) fun _ =>
    bind (validateUnique _ _) fun _ => bind (check _ (.left (.lit rfl) _)) fun _ => ?_
  exact bind (requirePositiveInt _ _) fun _ => bind (requirePositiveInt _ _) fun _ =>
    bind (requirePositiveInt _ _) fun _ => bind (requirePositiveInt _ _) fun _ =>
    bind (requireNonNegativeInt _ _) fun _ => bind (requirePositiveInt _ _) fun _ =>
    bind (check _ (.lit rfl)) fun _ => bind (check _ (.lit rfl)) fun _ => pure _

theorem parseRateLimits (scope : Dict) : Raises Complaint (parseRateLimits scope) :=
  bind (requireMapping _ _) fun _ => bind (requirePositiveInt _ _) fun _ =>
    bind (requirePositiveInt _ _) fun _ => pure _

theorem parseWindow (i : ℕ) (x : Json) : Raises Complaint (parseWindow i x) :=
  bind (requireMapping _ _) fun _ => bind (rejectUnknown _ _ _) fun _ =>
    bind (requireText _ _) fun _ => bind (requireText _ _) fun _ =>
    bind (requireText _ _) fun _ => pure _

theorem parseEvidence (scope : Dict) : Raises Complaint (parseEvidence scope) :=
  bind (requireMapping _ _) fun _ => bind (rejectUnknown _ _ _) fun _ =>
    bind (requireText _ _) fun _ => bind (requireText _ _) fun _ =>
    bind (requirePositiveInt _ _) fun _ => bind (requireBool _ _) fun _ =>
    bind (requireTextList _ _ _) fun _ => pure _

theorem parseReporting (scope : Dict) : Raises Complaint (parseReporting scope) :=
  bind (requireMapping _ _) fun _ => bind (rejectUnknown _ _ _) fun _ =>
    bind (requireText _ _) fun _ => bind (requireBool _ _) fun _ =>
    bind (requireBool _ _) fun _ => pure _

theorem parseScope (scope : Dict) : Raises Complaint (parseScope scope) := by
  unfold Gate.parseScope
  exact bind (rejectUnknown _ _ _) fun _ => bind (parseSchemaVersion _) fun _ =>
    bind (requireText _ _) fun _ => bind (requireText _ _) fun _ => bind (requireText _ _) fun _ =>
    bind (requireText _ _) fun _ => bind (requireMapping _ _) fun _ =>
    bind (parseRulesOfEngagement _) fun _ => bind (parseTargets _) fun _ =>
    bind (parsePanels _ _) fun _ => bind (parseFuzzing _) fun _ =>
    bind (requireTextList _ _ _) fun _ => bind (requireTextList _ _ _) fun _ =>
    bind (validateUnique _ _) fun _ => bind (validateUnique _ _) fun _ =>
    bind (parseRateLimits _) fun _ => bind (requireList _ _) fun _ =>
    bind (mapIdxE parseWindow _ _) fun _ => bind (requireList _ _) fun _ =>
    bind (requireList _ _) fun _ => bind (parseEvidence _) fun _ =>
    bind (parseReporting _) fun _ => pure _

theorem parsePolicyChecklist (profile : Dict) : Raises Complaint (parsePolicyChecklist profile) :=
  bind (requireMapping _ _) fun _ => bind (rejectUnknown _ _ _) fun _ =>
    bind (requireBool _ _) fun _ => bind (requireBool _ _) fun _ => bind (requireBool _ _) fun _ =>
    bind (requireBool _ _) fun _ => pure _

theorem parseProgramProfile (profile : Dict) : Raises Complaint (parseProgramProfile profile) := by
  unfold Gate.parseProgramProfile
  refine bind (rejectUnknown _ _ _) fun _ => bind (parseSchemaVersion _) fun _ =>
    bind (requireText _ _) fun _ => bind (requireText _ _) fun _ =>
    bind (check _ (.lit rfl)) fun _ => bind (requireText _ _) fun _ =>
    bind (requireTexts _ _) fun _ => bind (requireMapping _ _) fun _ =>
    bind (requirePositiveInt _ _) fun _ => ?_
  exact bind (requireTextList _ _ _) fun _ => bind (requireTextList _ _ _) fun _ =>
    bind (requireTextList _ _ _) fun _ => bind (requireTextList _ _ _) fun _ =>
    bind (requireTextList _ _ _) fun _ => bind (parsePolicyChecklist _) fun _ =>
    bind (validateUnique _ _) fun _ => bind (validateUnique _ _) fun _ =>
    bind (validateUnique _ _) fun _ => bind (validateUnique _ _) fun _ =>
    bind (validateUnique _ _) fun _ => bind (check _ (.left (.lit rfl) _)) fun _ =>
    bind (check _ (.left (.lit rfl) _)) fun _ => pure _

theorem parseOperatorApproval (approval : Dict) :
    Raises Complaint (parseOperatorApproval approval) := by
  unfold Gate.parseOperatorApproval
  refine bind (rejectUnknown _ _ _) fun _ => bind (parseSchemaVersion _) fun _ =>
    bind (requireText _ _) fun _ => bind (check _ (.lit rfl)) fun _ =>
    bind (requireTextList _ _ _) fun _ => bind (requireTextList _ _ _) fun _ =>
    bind (validateUnique _ _) fun _ => bind (validateUnique _ _) fun _ =>
    bind (check _ (.lit rfl)) fun _ => ?_
  exact bind (requireText _ _) fun _ => bind (requireText _ _) fun _ => bind (requireText _ _) fun _ =>
    bind (requireText _ _) fun _ => bind (requireText _ _) fun _ => bind (requireText _ _) fun _ =>
    pure _

end Raises

end Aotp.Gate
