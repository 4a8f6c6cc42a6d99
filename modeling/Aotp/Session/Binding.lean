import Aotp.Lib.Joins
import Aotp.Session.Routes

/-!
# Scope bindings

* `References.Unbroken` — the three references of a boundary hold no line break but before the text of
  the first and after the text of the last.
* `scopeBinding_unique_iff` — **the scope binding of an accepted boundary determines what it is bound
  to exactly where its references are unbroken**: the fields are joined by line breaks, and a line
  break within the references can be taken for one between them.
-/

namespace Aotp.Session

open PyData

variable {lib : SessionLibrary} {now : ℤ} {b b' : AuthenticatedSessionBoundary}

/-! ### The joined text -/

/-- White space. -/
def IsBlank (c : Char) : Prop := isSpace c = true

/-- A text that is not blank has something besides white space. -/
theorem strip_ne_empty_iff {s : String} : strip s ≠ "" ↔ Filled IsBlank s.toList := by
  unfold Filled IsBlank
  rw [Ne, strip_eq_empty_iff]
  push Not
  rfl

theorem newline_not_mem_of_isAlias {s : List Char} (h : isAlias s = true) : '\n' ∉ s := by
  intro hmem
  simp only [isAlias, Bool.and_eq_true] at h
  have hline := List.all_eq_true.mp h.1.2 '\n' hmem
  revert hline
  decide

theorem newline_not_mem_of_isSha256Text {s : String} (h : isSha256Text s = true) :
    '\n' ∉ s.toList := by
  intro hmem
  simp only [isSha256Text, Bool.and_eq_true] at h
  have hline := List.all_eq_true.mp h.2 '\n' hmem
  revert hline
  decide

/-- The three references, joined. -/
def joinedReferences (b : AuthenticatedSessionBoundary) : List Char :=
  joinThree '\n' b.authorizationReference.toList b.approvalReference.toList
    b.rulesOfEngagementReference.toList

theorem bindingText_toList (b : AuthenticatedSessionBoundary) :
    b.bindingText.toList = b.campaignId.toList ++ '\n' :: (b.operatorAlias.toList ++ '\n' ::
      (b.targetAlias.toList ++ '\n' :: (b.accountAlias.toList ++ '\n' ::
        (joinedReferences b ++ '\n' :: b.scopeSha256.toList)))) := by
  have hline : "\n".toList = ['\n'] := by decide
  unfold AuthenticatedSessionBoundary.bindingText AuthenticatedSessionBoundary.boundFields
    joinedReferences joinThree
  rw [String.toList_intercalate, hline]
  simp [List.intercalate]

/-- Equal texts of two accepted boundaries agree on everything but how the references are cut. -/
theorem bindingText_eq_iff (hb : Sound b) (hb' : Sound b') :
    b.bindingText = b'.bindingText ↔
      b.campaignId = b'.campaignId ∧ b.operatorAlias = b'.operatorAlias ∧
        b.targetAlias = b'.targetAlias ∧ b.accountAlias = b'.accountAlias ∧
          joinedReferences b = joinedReferences b' ∧ b.scopeSha256 = b'.scopeSha256 := by
  rw [← String.toList_inj, bindingText_toList, bindingText_toList]
  constructor
  · intro h
    obtain ⟨hcampaign, h⟩ := append_cons_inj (newline_not_mem_of_isAlias hb.campaign)
      (newline_not_mem_of_isAlias hb'.campaign) h
    obtain ⟨hoperator, h⟩ := append_cons_inj (newline_not_mem_of_isAlias hb.operator)
      (newline_not_mem_of_isAlias hb'.operator) h
    obtain ⟨htarget, h⟩ := append_cons_inj (newline_not_mem_of_isAlias hb.target)
      (newline_not_mem_of_isAlias hb'.target) h
    obtain ⟨haccount, h⟩ := append_cons_inj (newline_not_mem_of_isAlias hb.account)
      (newline_not_mem_of_isAlias hb'.account) h
    obtain ⟨hreferences, hscope⟩ := append_cons_inj_last (newline_not_mem_of_isSha256Text hb.scope)
      (newline_not_mem_of_isSha256Text hb'.scope) h
    exact ⟨String.toList_inj.mp hcampaign, String.toList_inj.mp hoperator,
      String.toList_inj.mp htarget, String.toList_inj.mp haccount, hreferences,
      String.toList_inj.mp hscope⟩
  · rintro ⟨hcampaign, hoperator, htarget, haccount, hreferences, hscope⟩
    rw [hcampaign, hoperator, htarget, haccount, hreferences, hscope]

/-! ### Unbroken references -/

/-- The references hold no line break but before the text of the first and after the text of the last:
what comes before a line break of the authorization reference, and after one of the rules of
engagement reference, is white space, and the approval reference has none. -/
def UnbrokenReferences (b : AuthenticatedSessionBoundary) : Prop :=
  Unbroken '\n' IsBlank b.authorizationReference.toList b.approvalReference.toList
    b.rulesOfEngagementReference.toList

/-- Another boundary that is bound by the same text is bound to the same values. -/
theorem boundFields_eq_of_bindingText (hb : Sound b) (hb' : Sound b') (h : UnbrokenReferences b)
    (htext : b'.bindingText = b.bindingText) : b'.boundFields = b.boundFields := by
  obtain ⟨hcampaign, hoperator, htarget, haccount, hreferences, hscope⟩ :=
    (bindingText_eq_iff hb hb').mp htext.symm
  obtain ⟨hauthorization, happroval, hrules⟩ := joined_unique h
    (strip_ne_empty_iff.mp hb'.authorization) (strip_ne_empty_iff.mp hb'.rules) hreferences
  unfold AuthenticatedSessionBoundary.boundFields
  rw [hcampaign, hoperator, htarget, haccount, String.toList_inj.mp hauthorization,
    String.toList_inj.mp happroval, String.toList_inj.mp hrules, hscope]

/-- A boundary with broken references shares its text with another one that is accepted with it. -/
theorem exists_bindingText_eq (hb : b.postInit lib now = .ok ()) (h : ¬ UnbrokenReferences b) :
    ∃ b' : AuthenticatedSessionBoundary, b'.postInit lib now = .ok () ∧
      b'.bindingText = b.bindingText ∧ b'.boundFields ≠ b.boundFields := by
  have hsound := sound_of_postInit hb
  have hspace : IsBlank '\n' := by
    show isSpace '\n' = true
    decide
  obtain ⟨x, y, z, hx, hy, hz, hjoin, hne⟩ := joined_ambiguous hspace
    (strip_ne_empty_iff.mp hsound.authorization) (strip_ne_empty_iff.mp hsound.approval)
    (strip_ne_empty_iff.mp hsound.rules) h
  have hfilled {part : List Char} (hpart : Filled IsBlank part) :
      strip (String.ofList part) ≠ "" := by
    rw [strip_ne_empty_iff, String.toList_ofList]
    exact hpart
  let b' : AuthenticatedSessionBoundary := { b with
    authorizationReference := String.ofList x
    approvalReference := String.ofList y
    rulesOfEngagementReference := String.ofList z }
  have hb' : b'.postInit lib now = .ok () :=
    postInit_references _ _ _ (hfilled hx) (hfilled hy) (hfilled hz) hb
  refine ⟨b', hb', ?_, ?_⟩
  · have hreferences : joinedReferences b' = joinedReferences b := by
      show joinThree '\n' (String.ofList x).toList (String.ofList y).toList
        (String.ofList z).toList = _
      rw [String.toList_ofList, String.toList_ofList, String.toList_ofList]
      exact hjoin
    exact (bindingText_eq_iff (sound_of_postInit hb') hsound).mpr
      ⟨rfl, rfl, rfl, rfl, hreferences, rfl⟩
  · intro hfields
    simp only [AuthenticatedSessionBoundary.boundFields, List.cons.injEq, b'] at hfields
    obtain ⟨-, -, -, -, hauthorization, happroval, hrules, -⟩ := hfields
    apply hne
    rw [← hauthorization, ← happroval, ← hrules]
    simp only [String.toList_ofList, and_self]

/-- **The scope binding of an accepted boundary determines what it is bound to exactly where its
references are unbroken.** -/
theorem scopeBinding_unique_iff (hfree : Function.Injective lib.sha256)
    (hb : b.postInit lib now = .ok ()) :
    (∀ (later : ℤ) (b' : AuthenticatedSessionBoundary), b'.postInit lib later = .ok () →
      b'.scopeBinding lib = b.scopeBinding lib → b'.boundFields = b.boundFields) ↔
      UnbrokenReferences b := by
  constructor
  · intro hunique
    by_contra hbroken
    obtain ⟨b', hb', htext, hne⟩ := exists_bindingText_eq hb hbroken
    have hbinding : b'.scopeBinding lib = b.scopeBinding lib := congrArg lib.sha256 htext
    exact hne (hunique now b' hb' hbinding)
  · intro hunbroken later b' hb' hbinding
    exact boundFields_eq_of_bindingText (sound_of_postInit hb) (sound_of_postInit hb') hunbroken
      (hfree hbinding)

/-! ### Two boundaries -/

section digest

/-- The digest of the text of the account's boundary. -/
def accountDigest : String := "f017fabd53c24c231b354981410176c6a9754add29380277b8135d6a0a0d9a18"

/-- A digest without collisions, which is SHA-256 on the text of the account's boundary. -/
def distinctDigest (text : String) : String :=
  if text = accountBoundary.bindingText then accountDigest else "text:" ++ text

theorem distinctDigest_injective : Function.Injective distinctDigest := by
  have hother (text : String) : accountDigest ≠ "text:" ++ text := by
    intro h
    have hhead := congrArg (fun s => s.toList.head?) h
    have hleft : accountDigest.toList.head? = some 'f' := by decide
    have hright : "text:".toList = 't' :: "ext:".toList := by decide
    simp only [String.toList_append, hright, List.cons_append, List.head?_cons, hleft] at hhead
    exact absurd hhead (by decide)
  intro s t h
  unfold distinctDigest at h
  split at h
  · split at h
    · rename_i hs ht
      rw [hs, ht]
    · exact absurd h (hother t)
  · split at h
    · exact absurd h.symm (hother s)
    · exact (String.append_right_inj _).mp h

/-- The account's boundary has unbroken references, so nothing else is bound as it is. -/
theorem scopeBinding_unique_account : UnbrokenReferences accountBoundary ∧
    ∀ (later : ℤ) (b' : AuthenticatedSessionBoundary),
      b'.postInit { plainLibrary with sha256 := distinctDigest } later = .ok () →
        b'.scopeBinding { plainLibrary with sha256 := distinctDigest } =
          accountBoundary.scopeBinding { plainLibrary with sha256 := distinctDigest } →
            b'.boundFields = accountBoundary.boundFields := by
  have haccepted : accountBoundary.postInit
      { plainLibrary with sha256 := distinctDigest } 0 = .ok () := by decide
  have hplain {s : String} (hs : '\n' ∉ s.toList) (u v : List Char)
      (huv : s.toList = u ++ '\n' :: v) : False := by
    apply hs
    rw [huv]
    exact List.mem_append_right _ (List.mem_cons_self ..)
  have hunbroken : UnbrokenReferences accountBoundary := {
    first := fun u v huv => absurd huv (fun h => hplain (by decide) u v h)
    second := by decide
    third := fun u v huv => absurd huv (fun h => hplain (by decide) u v h) }
  exact ⟨hunbroken, (scopeBinding_unique_iff distinctDigest_injective haccepted).mpr hunbroken⟩

/-- The line break of a reference taken for the end of the reference. -/
theorem lineBreak_shifts :
    ∃ b b' : AuthenticatedSessionBoundary,
      b.postInit plainLibrary 0 = .ok () ∧ b'.postInit plainLibrary 0 = .ok () ∧
        b.authorizationReference = "authz-18" ∧ b.approvalReference = "approval-18\nappendix" ∧
        b'.authorizationReference = "authz-18\napproval-18" ∧ b'.approvalReference = "appendix" ∧
        b.bindingText = b'.bindingText ∧
        (∀ lib : SessionLibrary, b.scopeBinding lib = b'.scopeBinding lib) ∧
        b.boundFields ≠ b'.boundFields := by
  have htext : ({ accountBoundary with approvalReference := "approval-18\nappendix" } :
      AuthenticatedSessionBoundary).bindingText =
        ({ accountBoundary with
          authorizationReference := "authz-18\napproval-18"
          approvalReference := "appendix" } : AuthenticatedSessionBoundary).bindingText := by
    decide +kernel
  refine ⟨{ accountBoundary with approvalReference := "approval-18\nappendix" },
    { accountBoundary with
      authorizationReference := "authz-18\napproval-18"
      approvalReference := "appendix" },
    by decide, by decide, rfl, rfl, rfl, rfl, htext,
    fun lib => congrArg lib.sha256 htext, by decide⟩

end digest

end Aotp.Session
