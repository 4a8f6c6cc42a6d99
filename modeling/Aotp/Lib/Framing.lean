import Mathlib

/-!
# Framing

A stream made of parts can be taken apart again where each part says how long it is.

* `Framed` — what an encoding puts in front of anything else determines the value, and the rest.
* `Framed.seq`, `Framed.flatten` — two encodings one after the other; **a list of encoded values**.
* `bigEndian` — a number as bytes, the most significant one first.
* `framed_lengthPrefixed` — **bytes behind their number** are framed, below the width of that number.
-/

namespace Framing

/-! ### Framed encodings -/

section framed

variable {α β σ : Type*}

/-- The encoding of a value, whatever follows it, determines the value and what follows. -/
def Framed (P : α → Prop) (encode : α → List σ) : Prop :=
  ∀ a b x y, P a → P b → encode a ++ x = encode b ++ y → a = b ∧ x = y

variable {P : α → Prop} {Q : β → Prop} {encode : α → List σ} {encode' : β → List σ}

theorem Framed.injective (h : Framed P encode) {a b : α} (ha : P a) (hb : P b)
    (heq : encode a = encode b) : a = b := by
  have hsame : encode a ++ [] = encode b ++ [] := by rw [heq]
  exact (h a b [] [] ha hb hsame).1

/-- One value after the other. -/
theorem Framed.seq (h : Framed P encode) (h' : Framed Q encode') :
    Framed (fun p : α × β => P p.1 ∧ Q p.2) fun p => encode p.1 ++ encode' p.2 := by
  intro ⟨a, b⟩ ⟨c, d⟩ x y ⟨ha, hb⟩ ⟨hc, hd⟩ heq
  simp only [List.append_assoc] at heq
  obtain ⟨rfl, hrest⟩ := h a c _ _ ha hc heq
  obtain ⟨rfl, hxy⟩ := h' b d x y hb hd hrest
  exact ⟨rfl, hxy⟩

/-- A value is encoded by way of another one. -/
theorem Framed.comp (h : Framed P encode) {f : β → α} (hf : Function.Injective f) :
    Framed (fun b => P (f b)) fun b => encode (f b) := by
  intro b c x y hb hc heq
  obtain ⟨hsame, hxy⟩ := h (f b) (f c) x y hb hc heq
  exact ⟨hf hsame, hxy⟩

/-- **A list of encoded values determines the values**, where none of them is encoded by nothing. The
induction is on the first list. -/
theorem Framed.flatten (h : Framed P encode) (hne : ∀ a, P a → encode a ≠ []) {as bs : List α}
    (has : ∀ a ∈ as, P a) (hbs : ∀ b ∈ bs, P b)
    (heq : (as.map encode).flatten = (bs.map encode).flatten) : as = bs := by
  induction as generalizing bs with
  | nil =>
    cases bs with
    | nil => rfl
    | cons b bs =>
      rw [List.map_nil, List.flatten_nil, List.map_cons, List.flatten_cons] at heq
      have hnil := (List.append_eq_nil_iff.mp heq.symm).1
      exact absurd hnil (hne b (hbs b List.mem_cons_self))
  | cons a as ih =>
    rw [List.forall_mem_cons] at has
    cases bs with
    | nil =>
      rw [List.map_nil, List.flatten_nil, List.map_cons, List.flatten_cons] at heq
      have hnil := (List.append_eq_nil_iff.mp heq).1
      exact absurd hnil (hne a has.1)
    | cons b bs =>
      rw [List.forall_mem_cons] at hbs
      simp only [List.map_cons, List.flatten_cons] at heq
      obtain ⟨rfl, hrest⟩ := h a b _ _ has.1 hbs.1 heq
      rw [ih has.2 hbs.2 hrest]

end framed

/-! ### Numbers as bytes -/

/-- A number as so many bytes, the most significant one first: `n.to_bytes(width, "big")`. -/
def bigEndian : ℕ → ℕ → List UInt8
  | 0, _ => []
  | width + 1, n => bigEndian width (n / 256) ++ [UInt8.ofNat n]

@[simp] theorem length_bigEndian (width n : ℕ) : (bigEndian width n).length = width := by
  induction width generalizing n with
  | zero => rfl
  | succ width ih => rw [bigEndian, List.length_append, ih, List.length_singleton]

/-- **The bytes determine the number**, where it fits. The induction is on the width: the last byte is
the remainder, the others are those of the quotient. -/
theorem bigEndian_injective {width m n : ℕ} (hm : m < 256 ^ width) (hn : n < 256 ^ width)
    (heq : bigEndian width m = bigEndian width n) : m = n := by
  induction width generalizing m n with
  | zero =>
    rw [pow_zero] at hm hn
    omega
  | succ width ih =>
    rw [pow_succ] at hm hn
    obtain ⟨hfront, hlast⟩ := List.append_inj' heq rfl
    have hquotient : m / 256 = n / 256 := by
      apply ih _ _ hfront
      · omega
      · omega
    have hbyte : UInt8.ofNat m = UInt8.ofNat n := (List.cons.inj hlast).1
    have hremainder : m % 256 = n % 256 := by
      have htoNat := congrArg UInt8.toNat hbyte
      simpa [UInt8.toNat_ofNat'] using htoNat
    omega

/-! ### Bytes behind their number -/

/-- Bytes, and in front of them how many there are. -/
def lengthPrefixed (width : ℕ) (bytes : List UInt8) : List UInt8 :=
  bigEndian width bytes.length ++ bytes

theorem lengthPrefixed_ne_nil {width : ℕ} (hwidth : 0 < width) (bytes : List UInt8) :
    lengthPrefixed width bytes ≠ [] := by
  intro hnil
  have hlength := congrArg List.length hnil
  unfold lengthPrefixed at hlength
  rw [List.length_append, length_bigEndian, List.length_nil] at hlength
  omega

/-- **Bytes behind their number are framed.** -/
theorem framed_lengthPrefixed (width : ℕ) :
    Framed (fun bytes : List UInt8 => bytes.length < 256 ^ width) (lengthPrefixed width) := by
  intro s t x y hs ht heq
  unfold lengthPrefixed at heq
  rw [List.append_assoc, List.append_assoc] at heq
  have hwidths : (bigEndian width s.length).length = (bigEndian width t.length).length := by
    rw [length_bigEndian, length_bigEndian]
  obtain ⟨hnumbers, hrest⟩ := List.append_inj heq hwidths
  exact List.append_inj hrest (bigEndian_injective hs ht hnumbers)

end Framing
