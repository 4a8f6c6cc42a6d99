import Aotp.Lib.Text

/-!
# Records that store the digest of their other fields

* `DataField`, `construct` — the fields of a dataclass, and an instance built from keyword
  arguments; an instance is the mapping of its attributes.
* `BoundRecord` — a dataclass with one field for the digest of the others; `digest`, `validate`.
* `BoundRecord.validate_eq_ok` — a validated record has no digest, or its own.
-/

namespace PyData

/-! ### Dataclasses -/

/-- A field of a dataclass; without a default value it has to be given. -/
structure DataField where
  name : String
  default : Option Json := none

/-- The value of a field: the one given, or the default. -/
def DataField.value (f : DataField) (given : Dict) : Except Exc Json :=
  match dget? given f.name, f.default with
  | some v, _ => .ok v
  | none, some d => .ok d
  | none, none => .error .typeError

/-- `cls(**given)`: the attributes of the instance, in the order of the fields. -/
def construct (fields : List DataField) (given : Dict) : Except Exc Dict := do
  guardE (given.all fun e => fields.any fun f => f.name == e.1) .typeError
  fields.mapM fun f => do
    let v ← f.value given
    pure (f.name, v)

/-- An attribute of an instance is what was given for it, or its default. -/
theorem dget?_of_construct {fields : List DataField} {given attributes : Dict}
    (h : construct fields given = .ok attributes) {f : DataField}
    (hf : fields.find? (fun g => g.name == f.name) = some f) :
    dget? attributes f.name = (dget? given f.name).or f.default := by
  simp only [construct, bind_eq_ok, guardE_eq_ok, mapM_eq_ok] at h
  obtain ⟨-, -, hall⟩ := h
  induction hall with
  | nil => cases hf
  | @cons g e fs es hg _ ih =>
    obtain ⟨v, hv, he⟩ := hg
    cases he
    rw [dget?_cons]
    by_cases hname : f.name = g.name
    · have hfg : g = f := by simpa [List.find?_cons, hname] using hf
      subst hfg
      rw [if_pos rfl]
      unfold DataField.value at hv
      cases hgiven : dget? given g.name with
      | some w => simp_all
      | none => cases hdefault : g.default <;> simp_all
    · have hne : (g.name == f.name) = false := by simpa using fun h => hname h.symm
      rw [if_neg hname]
      exact ih (by simpa [List.find?_cons, hne] using hf)

/-! ### The stored digest -/

/-- A dataclass one field of which stores the digest of the others. -/
structure BoundRecord where
  fields : List DataField
  digestField : String
  /-- How the record is written before it is hashed. -/
  style : DumpStyle
  /-- What `validate` checks before it compares digests. -/
  checks : Dict → Except Exc Unit
  /-- What `validate` raises where the digests differ. -/
  mismatch : String

namespace BoundRecord

variable (rt : Runtime) (kind : BoundRecord)

/-- The digest of a record, with its digest field blanked. -/
def digest (record : Dict) : String :=
  rt.sha256 ((Json.obj (dset record kind.digestField .null)).dumps rt kind.style)

/-- The stored digest, if any, is the one of the record. -/
def checkDigest (record : Dict) : Except Exc Unit :=
  match dget record kind.digestField with
  | .null => pure ()
  | stored => guardE (stored.pyEq (.str (kind.digest rt record))) (.valueError kind.mismatch)

/-- `record.validate()`. -/
def validate (record : Dict) : Except Exc Unit := do
  kind.checks record
  kind.checkDigest rt record

/-- `cls(**given)`, validated. -/
def read (given : Dict) : Except Exc Dict := do
  let record ← construct kind.fields given
  kind.validate rt record
  pure record

variable {rt : Runtime} {kind : BoundRecord} {record : Dict}

/-- Where digests depend on lengths only, so does the digest of a record. -/
theorem digest_of_length {digestAt : ℕ → String} {n : ℕ}
    (hrt : ∀ s, rt.sha256 s = digestAt s.toList.length)
    (h : ((Json.obj (dset record kind.digestField .null)).dumpChars rt kind.style).length = n) :
    kind.digest rt record = digestAt n := by
  unfold digest Json.dumps
  rw [hrt, String.toList_ofList, h]

theorem checkDigest_eq_ok : kind.checkDigest rt record = .ok () ↔
    dget record kind.digestField = .null ∨
      dget record kind.digestField = .str (kind.digest rt record) := by
  unfold checkDigest
  cases hstored : dget record kind.digestField <;> simp [guardE_eq_ok, pure, Except.pure]

/-- **A validated record has no digest, or its own.** -/
theorem validate_eq_ok : kind.validate rt record = .ok () ↔
    kind.checks record = .ok () ∧ (dget record kind.digestField = .null ∨
      dget record kind.digestField = .str (kind.digest rt record)) := by
  simp only [validate, bind_eq_ok, ← checkDigest_eq_ok]
  constructor
  · rintro ⟨⟨⟩, hchecks, hdigest⟩
    exact ⟨hchecks, hdigest⟩
  · rintro ⟨hchecks, hdigest⟩
    exact ⟨(), hchecks, hdigest⟩

end BoundRecord

end PyData
