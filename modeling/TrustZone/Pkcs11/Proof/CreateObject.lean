import TrustZone.Pkcs11.Proof.GenerateKeyPair
import TrustZone.Pkcs11.Proof.TemplateAccess
import TrustZone.Pkcs11.Proof.TokenObjects

/-!
# What `C_CreateObject` imports

* `keyState_takes`, `createPlan_label`: what a parser that reports no error has taken, and the label that it
  hands on.
* `isSome_createPlan`: when the parsers return.
* `import_outcome`, `create_outcome`: what the end of an import and a whole call come to.
* `create_law_iff`: **a call that succeeds has imported the object of its template**, and one without a
  label or a context fails, unless the parsers let it through to the save.
-/

namespace Pkcs11

open Lib Psa Crypto Traced

variable {κ ρ ε α : Type} {mbed : Mbed ρ ε κ} {a : CkAttribute} {template : List CkAttribute}
  {stack : List UInt8}

/-! ## The label -/

/-- What a parser that reports no error has made of the attributes: it met no label that is too long, and
kept one of those that it met. -/
structure Labelled (st st' : TemplateState α) (as : List CkAttribute) : Prop where
  ok : st'.xResult = .ok → st.xResult = .ok
  none_iff : st'.xResult = .ok →
    (st'.pxLabel = none ↔ st.pxLabel = none ∧ hasType .ckaLabel as = false)
  mem : st'.xResult = .ok → ∀ l, st'.pxLabel = some l → st.pxLabel = some l ∨
    l ∈ as ∧ l.type = .ckaLabel ∧ l.ulValueLen ≤ pkcs11configMaxLabelLength

theorem Labelled.refl (st : TemplateState α) : Labelled st st [] :=
  ⟨id, fun _ => by simp [hasType], fun _ _ h => .inl h⟩

theorem Labelled.trans {st st₁ st₂ : TemplateState α} {as bs : List CkAttribute}
    (h₁ : Labelled st st₁ as) (h₂ : Labelled st₁ st₂ bs) : Labelled st st₂ (as ++ bs) where
  ok h := h₁.ok (h₂.ok h)
  none_iff h := by
    rw [h₂.none_iff h, h₁.none_iff (h₂.ok h), and_assoc]
    simp [hasType]
  mem h l hl := by
    obtain hl | ⟨hmem, hrest⟩ := h₂.mem h l hl
    · obtain hl | ⟨hmem, hrest⟩ := h₁.mem (h₂.ok h) l hl
      · exact .inl hl
      · exact .inr ⟨List.mem_append_left _ hmem, hrest⟩
    · exact .inr ⟨List.mem_append_right _ hmem, hrest⟩

/-- An attribute that is no label. -/
theorem Labelled.other {st st' : TemplateState α} (htype : a.type ≠ .ckaLabel)
    (hlabel : st'.pxLabel = st.pxLabel) (hok : st'.xResult = .ok → st.xResult = .ok) :
    Labelled st st' [a] where
  ok := hok
  none_iff _ := by simp [hlabel, hasType, htype]
  mem _ l hl := .inl (hlabel ▸ hl)

theorem Labelled.label (st : TemplateState α) (htype : a.type = .ckaLabel) (ok : Bool)
    (hlen : ok = true → a.ulValueLen ≤ pkcs11configMaxLabelLength) :
    Labelled st (st.label a ok) [a] := by
  cases ok with
  | false => exact ⟨nofun, nofun, nofun⟩
  | true =>
    refine ⟨id, fun _ => by simp [TemplateState.label, hasType, htype], fun _ l hl => ?_⟩
    obtain rfl := Option.some.inj hl
    exact .inr ⟨List.mem_cons_self, htype, hlen rfl⟩

theorem Labelled.checkTrue {st st' : TemplateState α} {e : CkRv} (htype : a.type ≠ .ckaLabel)
    (he : e ≠ .ok) (h : st.checkTrue a e = some st') : Labelled st st' [a] := by
  obtain ⟨b, -, rfl⟩ := Option.map_eq_some_iff.1 h
  apply Labelled.other htype
  · split_ifs <;> rfl
  · split_ifs
    · exact fun hok => absurd hok he
    · exact id

theorem Labelled.ecParams {st st' : TemplateState α} (htype : a.type ≠ .ckaLabel)
    (h : st.ecParams a stack = some st') : Labelled st st' [a] := by
  obtain ⟨v, -, rfl⟩ := Option.map_eq_some_iff.1 h
  apply Labelled.other htype
  · split_ifs <;> rfl
  · split_ifs
    · exact nofun
    · exact id

theorem labelled_certificateAttribute {st st' : TemplateState CertificateValue}
    (h : certificateAttribute st a = some st') : Labelled st st' [a] := by
  unfold certificateAttribute at h
  split at h <;> rename_i htype
  · cases h
    exact .other (by simp [htype]) rfl id
  · cases h
    exact .label st htype _ of_decide_eq_true
  · obtain ⟨t, -, rfl⟩ := Option.map_eq_some_iff.1 h
    apply Labelled.other (by simp [htype])
    · split_ifs <;> rfl
    · split_ifs
      · exact nofun
      · exact id
  · exact .checkTrue (by simp [htype]) (by decide) h
  · cases h
    exact .other (by simp [htype]) rfl id
  · cases h
    exact .other (by simp [htype]) rfl id
  · cases h
    exact ⟨nofun, nofun, nofun⟩

theorem Labelled.checkTrueWhole {st st' : TemplateState α} {xBool b : UInt8} {e : CkRv}
    (htype : a.type ≠ .ckaLabel) (he : e ≠ .ok)
    (h : st.checkTrueWhole a xBool e = some (b, st')) (c : α) :
    Labelled st { st' with ctx := c } [a] := by
  have hst : st' = st ∨ st' = { st with xResult := e } := by
    unfold TemplateState.checkTrueWhole at h
    split at h
    · cases h
    · split at h
      · cases h
      · obtain ⟨-, rfl⟩ := Prod.mk.inj (Option.some.inj h)
        split_ifs <;> first | exact .inl rfl | exact .inr rfl
  obtain rfl | rfl := hst
  · exact .other htype rfl id
  · exact .other htype rfl fun hok => absurd hok he

theorem labelled_ecPrivateKeyAttribute {st st' : TemplateState (PkContext ρ ε)}
    (h : ecPrivateKeyAttribute mbed stack st a = some st') : Labelled st st' [a] := by
  unfold ecPrivateKeyAttribute at h
  split at h <;> rename_i htype
  · cases h
    exact .other (by simp [htype]) rfl id
  · cases h
    exact .other (by simp [htype]) rfl id
  · exact .checkTrue (by simp [htype]) (by decide) h
  · exact .checkTrue (by simp [htype]) (by decide) h
  · cases h
    exact .label st htype _ of_decide_eq_true
  · exact .ecParams (by simp [htype]) h
  · split at h
    · cases h
      apply Labelled.other (by simp [htype])
      · split_ifs <;> rfl
      · split_ifs
        · exact nofun
        · exact id
    · cases h
  · cases h
    exact ⟨nofun, nofun, nofun⟩

theorem labelled_ecPublicKeyAttribute {st st' : TemplateState (EcVars ρ ε)}
    (h : ecPublicKeyAttribute mbed stack st a = some st') : Labelled st st' [a] := by
  unfold ecPublicKeyAttribute at h
  split at h <;> rename_i htype
  · cases h
    exact .other (by simp [htype]) rfl id
  · cases h
    exact .other (by simp [htype]) rfl id
  · obtain ⟨b, -, rfl⟩ := Option.map_eq_some_iff.1 h
    apply Labelled.other (by simp [htype])
    · split_ifs <;> rfl
    · split_ifs
      · exact nofun
      · exact id
  · cases h
    exact .label st htype _ fun hlen => Nat.le_of_lt (of_decide_eq_true hlen)
  · obtain ⟨⟨b, st₁⟩, hwhole, rfl⟩ := Option.map_eq_some_iff.1 h
    exact .checkTrueWhole (by simp [htype]) (by decide) hwhole _
  · exact .ecParams (by simp [htype]) h
  · split at h
    · cases h
      apply Labelled.other (by simp [htype])
      · split_ifs <;> rfl
      · split_ifs
        · exact nofun
        · exact id
    · cases h
  · cases h
    exact ⟨nofun, nofun, nofun⟩

theorem labelled_rsaPrivateKeyAttribute {st st' : TemplateState (RsaVars ρ)} {r : Int}
    (h : rsaPrivateKeyAttribute mbed st a = some (r, st')) : Labelled st st' [a] := by
  unfold rsaPrivateKeyAttribute at h
  split at h <;> rename_i htype
  · cases h
    exact .other (by simp [htype]) rfl id
  · cases h
    exact .other (by simp [htype]) rfl id
  · obtain ⟨b, -, hst⟩ := Option.map_eq_some_iff.1 h
    obtain ⟨-, rfl⟩ := Prod.mk.inj hst
    apply Labelled.other (by simp [htype])
    · split_ifs <;> rfl
    · split_ifs
      · exact nofun
      · exact id
  · cases h
    exact .label st htype _ of_decide_eq_true
  · obtain ⟨⟨b, st₁⟩, hwhole, hst⟩ := Option.map_eq_some_iff.1 h
    obtain ⟨-, rfl⟩ := Prod.mk.inj hst
    exact .checkTrueWhole (by simp [htype]) (by decide) hwhole _
  · split at h
    · rename_i f hf
      obtain ⟨v, -, hst⟩ := Option.map_eq_some_iff.1 h
      obtain ⟨-, rfl⟩ := Prod.mk.inj hst
      refine Labelled.other ?_ rfl id
      intro hlabel
      rw [hlabel] at hf
      cases hf
    · cases h
      exact ⟨nofun, nofun, nofun⟩

theorem labelled_foldlM {f : TemplateState α → CkAttribute → Option (TemplateState α)}
    (hf : ∀ {st st' a}, f st a = some st' → Labelled st st' [a]) {st st' : TemplateState α}
    (h : template.foldlM f st = some st') : Labelled st st' template := by
  induction template generalizing st with
  | nil =>
    obtain rfl := Option.some.inj h
    exact .refl st
  | cons a as ih =>
    rw [List.foldlM_cons] at h
    obtain ⟨st₁, hone, hrest⟩ := Option.bind_eq_some_iff.1 h
    exact (hf hone).trans (ih hrest)

theorem labelled_prvCreateRsaPrivateKey {st st' : TemplateState (RsaVars ρ)}
    (h : prvCreateRsaPrivateKey mbed template st = some st') : Labelled st st' template := by
  induction template generalizing st with
  | nil =>
    obtain rfl := Option.some.inj h
    exact .refl st
  | cons a as ih =>
    unfold prvCreateRsaPrivateKey at h
    split at h
    · cases h
    · rename_i r st₁ hone
      split_ifs at h
      · obtain rfl := Option.some.inj h
        exact ⟨nofun, nofun, nofun⟩
      · exact (labelled_rsaPrivateKeyAttribute hone).trans (ih h)

/-! ## What is imported -/

/-- The objects that there is an import for. -/
inductive ImportKind
  | certificate | rsaPrivateKey | ecPrivateKey | ecPublicKey
  deriving DecidableEq

/-- The first attribute of a type, as a `CK_ULONG`. -/
def firstUlong (type : AttributeType) (template : List CkAttribute) : Option Nat :=
  (template.find? fun b => b.type = type).bind (·.readUlong)

namespace ImportKind

def xClass : ImportKind → Nat
  | .certificate => ckoCertificate
  | .rsaPrivateKey => ckoPrivateKey
  | .ecPrivateKey => ckoPrivateKey
  | .ecPublicKey => ckoPublicKey

/-- The import that the first class and the first key type of a template pick. -/
def ofTemplate (template : List CkAttribute) : Option ImportKind :=
  if firstUlong .ckaClass template = some ckoCertificate then some .certificate
  else if firstUlong .ckaClass template = some ckoPrivateKey then
    if firstUlong .ckaKeyType template = some ckkRsa then some .rsaPrivateKey
    else if firstUlong .ckaKeyType template = some ckkEc then some .ecPrivateKey
    else none
  else if firstUlong .ckaClass template = some ckoPublicKey then
    if firstUlong .ckaKeyType template = some ckkEc then some .ecPublicKey else none
  else none

/-- The attributes that hold the value of an object. -/
def valueTypes : ImportKind → List AttributeType
  | .certificate => [.ckaValue]
  | .rsaPrivateKey => [.ckaModulus, .ckaPublicExponent, .ckaPrivateExponent, .ckaPrime1, .ckaPrime2,
      .ckaExponent1, .ckaExponent2, .ckaCoefficient]
  | .ecPrivateKey => [.ckaValue]
  | .ecPublicKey => [.ckaEcPoint]

end ImportKind

/-- What the EC context is filled with: a value of the attribute that mbedTLS takes. -/
def contextTakes (filled : AttributeType) (reader : CkAttribute → ε → Option (Int × ε)) (e : ε)
    (a : CkAttribute) : Option ε :=
  if a.type = filled then
    match reader a e with
    | none => none
    | some (lMbedReturn, e) => if lMbedReturn = 0 then some e else none
  else some e

/-- `mbedtls_mpi_read_binary` of `CKA_VALUE`. -/
def readValue (mbed : Mbed ρ ε κ) (a : CkAttribute) (e : ε) : Option (Int × ε) :=
  a.input.map fun v => mbed.mpiReadBinary v a.ulValueLen e

/-- `mbedtls_ecp_point_read_binary` of `CKA_EC_POINT`. -/
def readPoint (mbed : Mbed ρ ε κ) (a : CkAttribute) (e : ε) : Option (Int × ε) :=
  a.pValue.map fun v =>
    mbed.ecpPointReadBinary (memOf (v.drop 2)) (BitVec.ofNat 32 a.ulValueLen - 2).toNat e

/-- The values of a template are valid: there is one, and mbedTLS takes every part of it. -/
def ImportKind.Takes (mbed : Mbed ρ ε κ) (template : List CkAttribute) : ImportKind → Prop
  | .certificate => ∃ b ∈ template, b.type = .ckaValue ∧ b.pValue ≠ none
  | .rsaPrivateKey => (template.foldlM (fieldGoes mbed) mbed.rsaInit).isSome
  | .ecPrivateKey =>
    (template.foldlM (contextTakes .ckaValue (readValue mbed)) mbed.ecpKeypairInit).isSome
  | .ecPublicKey =>
    (template.foldlM (contextTakes .ckaEcPoint (readPoint mbed)) mbed.ecpKeypairInit).isSome

/-! ## The parsers of keys -/

/-- The context that an EC key is read into. -/
def ecContext (mbed : Mbed ρ ε κ) (mallocContext : Bool) : PkContext ρ ε :=
  if mallocContext then .ec mbed.ecpKeypairInit else .null

/-- What the parser of a key makes of a template. -/
def keyState (mbed : Mbed ρ ε κ) (template : List CkAttribute) (ans : CreateAns) :
    ImportKind → Option (TemplateState (PkContext ρ ε))
  | .rsaPrivateKey =>
    (prvCreateRsaPrivateKey mbed template ⟨none, none, .ok, ⟨mbed.rsaInit, ans.xBool⟩⟩).map fun st =>
      ⟨st.pxLabel, st.pxClass, st.xResult, .rsa st.ctx.rsa⟩
  | .ecPublicKey =>
    (template.foldlM (ecPublicKeyAttribute mbed ans.stack)
      ⟨none, none, .ok, ⟨ecContext mbed ans.mallocContext, ans.xBool⟩⟩).map fun st =>
        ⟨st.pxLabel, st.pxClass, st.xResult, st.ctx.pk⟩
  | _ => template.foldlM (ecPrivateKeyAttribute mbed ans.stack)
      ⟨none, none, .ok, ecContext mbed ans.mallocContext⟩

/-- The DER of a key. -/
def writeKey (mbed : Mbed ρ ε κ) (pk : PkContext ρ ε) :
    ImportKind → Except CkRv (List UInt8 × Nat)
  | .ecPublicKey => writePublicKey mbed pk
  | _ => writePrivateKey mbed pk

variable {ans : CreateAns} {kind : ImportKind}

theorem prvGetKeyType_of_some {n : Nat} (h : firstUlong .ckaKeyType template = some n) :
    prvGetKeyType template = some (some n) := by
  obtain ⟨c, hfind, hn⟩ := Option.bind_eq_some_iff.1 h
  unfold prvGetKeyType
  rw [hfind]
  simp [hn]

theorem createPlan_class {n : Nat} (h : firstUlong .ckaClass template = some n) :
    createPlan mbed template ans =
      if n = ckoCertificate then certificatePlan template
      else if n = ckoPrivateKey then privateKeyPlan mbed template ans
      else if n = ckoPublicKey then publicKeyPlan mbed template ans
      else some ⟨.error .attributeValueInvalid, []⟩ := by
  obtain ⟨c, hfind, hn⟩ := Option.bind_eq_some_iff.1 h
  unfold createPlan
  rw [hfind]
  simp [hn]

theorem createPlan_certificate (h : ImportKind.ofTemplate template = some .certificate) :
    createPlan mbed template ans = certificatePlan template := by
  unfold ImportKind.ofTemplate at h
  split_ifs at h with hclass
  · rw [createPlan_class hclass, if_pos rfl]
  all_goals cases h

/-- **The plan of a key**: its parser, then its DER. Only the RSA context must be granted. -/
theorem createPlan_key (h : ImportKind.ofTemplate template = some kind)
    (hkey : kind ≠ .certificate) :
    createPlan mbed template ans =
      if kind = .rsaPrivateKey ∧ ans.mallocContext = false then some ⟨.error .hostMemory, []⟩
      else (keyState mbed template ans kind).map fun st =>
        derPlan st (if ans.mallocContext then [.malloc] else []) ans.mallocDer
          (writeKey mbed st.ctx kind) := by
  have h1 : ckoPrivateKey ≠ ckoCertificate := by decide
  have h2 : ckoPublicKey ≠ ckoCertificate := by decide
  have h3 : ckoPublicKey ≠ ckoPrivateKey := by decide
  have h4 : ckkEc ≠ ckkRsa := by decide
  unfold ImportKind.ofTemplate at h
  split_ifs at h with hc hp hrsa hec hpub hec
  · exact absurd (Option.some.inj h).symm hkey
  · obtain rfl := Option.some.inj h
    rw [createPlan_class hp, if_neg h1, if_pos rfl, privateKeyPlan, prvGetKeyType_of_some hrsa]
    cases hm : ans.mallocContext <;> simp [keyState, writeKey, Function.comp_def]
  · obtain rfl := Option.some.inj h
    rw [createPlan_class hp, if_neg h1, if_pos rfl, privateKeyPlan, prvGetKeyType_of_some hec]
    cases hm : ans.mallocContext <;> simp [keyState, writeKey, ecContext, hm, h4]
  · obtain rfl := Option.some.inj h
    rw [createPlan_class hpub, if_neg h2, if_neg h3, if_pos rfl, publicKeyPlan,
      prvGetKeyType_of_some hec]
    cases hm : ans.mallocContext <;>
      simp [keyState, writeKey, ecContext, hm, h4, Function.comp_def]

/-! ## What the parsers of keys leave -/

theorem Labelled.ctx {β : Type} {st st' : TemplateState α} {as : List CkAttribute}
    (h : Labelled st st' as) (c c' : β) :
    Labelled ⟨st.pxLabel, st.pxClass, st.xResult, c⟩ ⟨st'.pxLabel, st'.pxClass, st'.xResult, c'⟩ as :=
  ⟨h.ok, h.none_iff, h.mem⟩

theorem keyState_labelled {st : TemplateState (PkContext ρ ε)}
    (h : keyState mbed template ans kind = some st) :
    Labelled (⟨none, none, .ok, st.ctx⟩ : TemplateState (PkContext ρ ε)) st template := by
  cases kind with
  | certificate => exact (labelled_foldlM labelled_ecPrivateKeyAttribute h).ctx _ _
  | ecPrivateKey => exact (labelled_foldlM labelled_ecPrivateKeyAttribute h).ctx _ _
  | rsaPrivateKey =>
    obtain ⟨st, hst, rfl⟩ := Option.map_eq_some_iff.1 h
    exact (labelled_prvCreateRsaPrivateKey hst).ctx _ _
  | ecPublicKey =>
    obtain ⟨st, hst, rfl⟩ := Option.map_eq_some_iff.1 h
    exact (labelled_foldlM labelled_ecPublicKeyAttribute hst).ctx _ _

/-- A loop that reports no error has filled the context with each value that it met. -/
theorem contextTakes_foldlM {f : TemplateState α → CkAttribute → Option (TemplateState α)}
    {filled : AttributeType} {reader : CkAttribute → ε → Option (Int × ε)}
    (pk : α → PkContext ρ ε)
    (hlabelled : ∀ {st st' a}, f st a = some st' → Labelled st st' [a])
    (hone : ∀ {st st' a e}, f st a = some st' → st'.xResult = .ok → pk st.ctx = .ec e →
      ∃ e', contextTakes filled reader e a = some e' ∧ pk st'.ctx = .ec e')
    {st st' : TemplateState α} {e : ε} (h : template.foldlM f st = some st') (hok : st'.xResult = .ok)
    (hctx : pk st.ctx = .ec e) :
    ∃ e', template.foldlM (contextTakes filled reader) e = some e' ∧ pk st'.ctx = .ec e' := by
  induction template generalizing st e with
  | nil =>
    obtain rfl := Option.some.inj h
    exact ⟨e, rfl, hctx⟩
  | cons a as ih =>
    rw [List.foldlM_cons] at h
    obtain ⟨st₁, hfirst, hrest⟩ := Option.bind_eq_some_iff.1 h
    obtain ⟨e₁, htakes, hctx₁⟩ := hone hfirst ((labelled_foldlM hlabelled hrest).ok hok) hctx
    rw [List.foldlM_cons, htakes]
    exact ih hrest hctx₁

theorem ecPrivateKeyAttribute_ctx {st st' : TemplateState (PkContext ρ ε)}
    (h : ecPrivateKeyAttribute mbed stack st a = some st') (hvalue : a.type ≠ .ckaValue) :
    st'.ctx = st.ctx := by
  cases htype : a.type
  case ckaValue => exact absurd htype hvalue
  all_goals
    simp only [ecPrivateKeyAttribute, htype, TemplateState.checkTrue, TemplateState.ecParams,
      TemplateState.label, Option.map_eq_some_iff, Option.some.injEq] at h
    first
      | (obtain ⟨b, -, rfl⟩ := h; split_ifs <;> rfl)
      | (subst h; rfl)

theorem checkTrueWhole_ctx {st st' : TemplateState α} {xBool b : UInt8} {e : CkRv}
    (h : st.checkTrueWhole a xBool e = some (b, st')) : st'.ctx = st.ctx := by
  unfold TemplateState.checkTrueWhole at h
  split at h
  · cases h
  · split at h
    · cases h
    · obtain ⟨-, rfl⟩ := Prod.mk.inj (Option.some.inj h)
      split_ifs <;> rfl

theorem ecPublicKeyAttribute_pk {st st' : TemplateState (EcVars ρ ε)}
    (h : ecPublicKeyAttribute mbed stack st a = some st') (hpoint : a.type ≠ .ckaEcPoint) :
    st'.ctx.pk = st.ctx.pk := by
  cases htype : a.type
  case ckaEcPoint => exact absurd htype hpoint
  case ckaVerify =>
    simp only [ecPublicKeyAttribute, htype, Option.map_eq_some_iff] at h
    obtain ⟨⟨b, st₁⟩, hwhole, rfl⟩ := h
    have hpk : st₁.ctx.pk = st.ctx.pk := congrArg EcVars.pk (checkTrueWhole_ctx hwhole)
    exact hpk
  all_goals
    simp only [ecPublicKeyAttribute, htype, TemplateState.ecParams, TemplateState.label,
      Option.map_eq_some_iff, Option.some.injEq] at h
    first
      | (obtain ⟨b, -, rfl⟩ := h; split_ifs <;> rfl)
      | (subst h; rfl)

theorem ecPrivateKeyAttribute_takes {st st' : TemplateState (PkContext ρ ε)} {e : ε}
    (h : ecPrivateKeyAttribute mbed stack st a = some st') (hok : st'.xResult = .ok)
    (hctx : st.ctx = .ec e) :
    ∃ e', contextTakes .ckaValue (readValue mbed) e a = some e' ∧ st'.ctx = .ec e' := by
  by_cases hvalue : a.type = .ckaValue
  · simp only [ecPrivateKeyAttribute, hvalue, hctx] at h
    cases hv : a.input with
    | none =>
      simp only [hv] at h
      cases h
    | some v =>
      simp only [hv, Option.some.injEq] at h
      subst h
      simp only [contextTakes, readValue, hvalue, hv, if_true, Option.map_some]
      by_cases hr : (mbed.mpiReadBinary v a.ulValueLen e).1 = 0
      · exact ⟨_, if_pos hr, by split_ifs <;> rfl⟩
      · rw [if_pos hr] at hok
        cases hok
  · exact ⟨e, if_neg hvalue, (ecPrivateKeyAttribute_ctx h hvalue).trans hctx⟩

theorem ecPublicKeyAttribute_takes {st st' : TemplateState (EcVars ρ ε)} {e : ε}
    (h : ecPublicKeyAttribute mbed stack st a = some st') (hok : st'.xResult = .ok)
    (hctx : st.ctx.pk = .ec e) :
    ∃ e', contextTakes .ckaEcPoint (readPoint mbed) e a = some e' ∧ st'.ctx.pk = .ec e' := by
  by_cases hpoint : a.type = .ckaEcPoint
  · simp only [ecPublicKeyAttribute, hpoint, hctx] at h
    cases hv : a.pValue with
    | none =>
      simp only [hv] at h
      cases h
    | some v =>
      simp only [hv, Option.some.injEq] at h
      subst h
      simp only [contextTakes, readPoint, hpoint, hv, if_true, Option.map_some]
      by_cases hr : (mbed.ecpPointReadBinary (memOf (v.drop 2))
          (BitVec.ofNat 32 a.ulValueLen - 2).toNat e).1 = 0
      · exact ⟨_, if_pos hr, by split_ifs <;> rfl⟩
      · rw [if_pos hr] at hok
        cases hok
  · exact ⟨e, if_neg hpoint, (ecPublicKeyAttribute_pk h hpoint).trans hctx⟩

theorem rsaPrivateKeyAttribute_field {f : RsaField} (hf : rsaField a.type = some f)
    (st : TemplateState (RsaVars ρ)) : rsaPrivateKeyAttribute mbed st a =
      (readField mbed f a st.ctx.rsa).map fun (lMbedReturn, rsa) =>
        (lMbedReturn, { st with ctx := { st.ctx with rsa := rsa } }) := by
  cases htype : a.type
  all_goals
    simp only [htype, rsaField, reduceCtorEq, Option.some.injEq] at hf
  all_goals
    subst hf
    simp only [rsaPrivateKeyAttribute, htype, rsaField]

theorem rsaPrivateKeyAttribute_rsa (hf : rsaField a.type = none) {r : Int}
    {st st' : TemplateState (RsaVars ρ)} (h : rsaPrivateKeyAttribute mbed st a = some (r, st')) :
    r = 0 ∧ st'.ctx.rsa = st.ctx.rsa := by
  cases htype : a.type
  case ckaSign =>
    simp only [rsaPrivateKeyAttribute, htype, Option.map_eq_some_iff, Prod.mk.injEq] at h
    obtain ⟨⟨b, st₁⟩, hwhole, rfl, rfl⟩ := h
    have hrsa : st₁.ctx.rsa = st.ctx.rsa := congrArg RsaVars.rsa (checkTrueWhole_ctx hwhole)
    exact ⟨rfl, hrsa⟩
  case ckaToken =>
    simp only [rsaPrivateKeyAttribute, htype, Option.map_eq_some_iff, Prod.mk.injEq] at h
    obtain ⟨b, -, rfl, rfl⟩ := h
    exact ⟨rfl, by split_ifs <;> rfl⟩
  case ckaLabel =>
    simp only [rsaPrivateKeyAttribute, htype, TemplateState.label, Option.some.injEq,
      Prod.mk.injEq] at h
    obtain ⟨rfl, rfl⟩ := h
    exact ⟨rfl, by split_ifs <;> rfl⟩
  all_goals
    simp only [rsaPrivateKeyAttribute, htype, rsaField, Option.some.injEq, Prod.mk.injEq,
      reduceCtorEq] at h hf
  all_goals
    obtain ⟨rfl, rfl⟩ := h
    exact ⟨rfl, rfl⟩

theorem rsaPrivateKeyAttribute_takes {st st' : TemplateState (RsaVars ρ)} {r : Int}
    (h : rsaPrivateKeyAttribute mbed st a = some (r, st')) :
    fieldGoes mbed st.ctx.rsa a = if r = 0 then some st'.ctx.rsa else none := by
  unfold fieldGoes
  cases hf : rsaField a.type with
  | none =>
    obtain ⟨rfl, hrsa⟩ := rsaPrivateKeyAttribute_rsa hf h
    rw [if_pos rfl, hrsa, Option.bind_none]
  | some f =>
    rw [rsaPrivateKeyAttribute_field hf] at h
    obtain ⟨⟨lMbedReturn, rsa⟩, hread, hst⟩ := Option.map_eq_some_iff.1 h
    obtain ⟨rfl, rfl⟩ := Prod.mk.inj hst
    rw [Option.bind_some, hread]

theorem fieldGoes_foldlM {st st' : TemplateState (RsaVars ρ)}
    (h : prvCreateRsaPrivateKey mbed template st = some st') (hok : st'.xResult = .ok) :
    template.foldlM (fieldGoes mbed) st.ctx.rsa = some st'.ctx.rsa := by
  induction template generalizing st with
  | nil =>
    obtain rfl := Option.some.inj h
    rfl
  | cons a as ih =>
    unfold prvCreateRsaPrivateKey at h
    split at h
    · cases h
    · rename_i r st₁ hone
      split_ifs at h with hr
      · obtain rfl := Option.some.inj h
        cases hok
      · rw [List.foldlM_cons, rsaPrivateKeyAttribute_takes hone, if_pos (Decidable.not_not.1 hr)]
        exact ih h

/-- **A parser of a key that reports no error has taken every value**, if it has a context. -/
theorem keyState_takes {st : TemplateState (PkContext ρ ε)} (hkey : kind ≠ .certificate)
    (h : keyState mbed template ans kind = some st) (hok : st.xResult = .ok)
    (hctx : ans.mallocContext = true) : kind.Takes mbed template := by
  have hec : ecContext mbed ans.mallocContext = .ec mbed.ecpKeypairInit := if_pos hctx
  cases kind with
  | certificate => exact absurd rfl hkey
  | rsaPrivateKey =>
    obtain ⟨st, hst, rfl⟩ := Option.map_eq_some_iff.1 h
    exact Option.isSome_iff_exists.2 ⟨_, fieldGoes_foldlM hst hok⟩
  | ecPrivateKey =>
    obtain ⟨e, he, -⟩ := contextTakes_foldlM id labelled_ecPrivateKeyAttribute
      ecPrivateKeyAttribute_takes h hok hec
    exact Option.isSome_iff_exists.2 ⟨e, he⟩
  | ecPublicKey =>
    obtain ⟨st, hst, rfl⟩ := Option.map_eq_some_iff.1 h
    obtain ⟨e, he, -⟩ := contextTakes_foldlM EcVars.pk labelled_ecPublicKeyAttribute
      ecPublicKeyAttribute_takes hst hok hec
    exact Option.isSome_iff_exists.2 ⟨e, he⟩

/-! ## When the parsers return -/

def certificateReturns (a : CkAttribute) : Prop :=
  match a.type with
  | .ckaCertificateType => a.pValue ≠ none
  | .ckaToken => a.pValue ≠ none
  | _ => True

def rsaPrivateKeyReturns (a : CkAttribute) : Prop :=
  match a.type with
  | .ckaToken => a.pValue ≠ none
  | .ckaSign => a.pValue ≠ none ∧ a.ulValueLen ≤ 1
  | type => ∀ f, rsaField type = some f → f.importRaw = true ∨ a.pValue ≠ none ∨ a.ulValueLen = 0

def ecPrivateKeyReturns (context : Bool) (a : CkAttribute) : Prop :=
  match a.type with
  | .ckaToken => a.pValue ≠ none
  | .ckaSign => a.pValue ≠ none
  | .ckaEcParams => a.pValue ≠ none
  | .ckaValue => (a.pValue ≠ none ∨ a.ulValueLen = 0) ∧ context = true
  | _ => True

def ecPublicKeyReturns (context : Bool) (a : CkAttribute) : Prop :=
  match a.type with
  | .ckaToken => a.pValue ≠ none
  | .ckaVerify => a.pValue ≠ none ∧ a.ulValueLen ≤ 1
  | .ckaEcParams => a.pValue ≠ none
  | .ckaEcPoint => a.pValue ≠ none ∧ context = true
  | _ => True

/-- No attribute that the parser of a key or a certificate comes to is one that it cannot take: it reads
no value that is not there, fills no context that is not there, and `xBool` with one byte. -/
def ImportKind.Returns (mbed : Mbed ρ ε κ) (template : List CkAttribute) (ans : CreateAns) :
    ImportKind → Prop
  | .certificate => ∀ b ∈ template, certificateReturns b
  | .rsaPrivateKey => ans.mallocContext = true →
    ∀ b, Reaches (fieldGoes mbed) mbed.rsaInit template b → rsaPrivateKeyReturns b
  | .ecPrivateKey => ∀ b ∈ template, ecPrivateKeyReturns ans.mallocContext b
  | .ecPublicKey => ∀ b ∈ template, ecPublicKeyReturns ans.mallocContext b

theorem isSome_read {n : Nat} : (a.read n).isSome ↔ a.pValue ≠ none := by
  rw [CkAttribute.read, Option.isSome_map, Option.isSome_iff_ne_none]

theorem isSome_readBool : a.readBool.isSome ↔ a.pValue ≠ none := by
  rw [CkAttribute.readBool, Option.isSome_map, isSome_read]

theorem isSome_readUlong : a.readUlong.isSome ↔ a.pValue ≠ none := by
  rw [CkAttribute.readUlong, Option.isSome_map, isSome_read]

theorem isSome_input : a.input.isSome ↔ a.pValue ≠ none ∨ a.ulValueLen = 0 := by
  unfold CkAttribute.input
  cases a.pValue with
  | none => by_cases hlen : a.ulValueLen = 0 <;> simp [hlen]
  | some v => simp

theorem isSome_readField (f : RsaField) (rsa : ρ) : (readField mbed f a rsa).isSome ↔
    f.importRaw = true ∨ a.pValue ≠ none ∨ a.ulValueLen = 0 := by
  unfold readField
  split_ifs with h
  · exact iff_of_true rfl (.inl h.1)
  · rw [Option.isSome_map, isSome_input]
    exact ⟨.inr, fun hor => hor.elim (fun hraw => .inl fun hnone => h ⟨hraw, hnone⟩) id⟩

theorem isSome_checkTrueWhole (st : TemplateState α) (xBool : UInt8) (e : CkRv) :
    (st.checkTrueWhole a xBool e).isSome ↔ a.pValue ≠ none ∧ a.ulValueLen ≤ 1 := by
  unfold TemplateState.checkTrueWhole
  cases a.pValue with
  | none => simp
  | some v =>
    by_cases hlen : 1 < a.ulValueLen
    · simp [hlen]
    · exact iff_of_true (by simp [hlen]) ⟨nofun, Nat.not_lt.1 hlen⟩

theorem isSome_certificateAttribute (st : TemplateState CertificateValue) (a : CkAttribute) :
    (certificateAttribute st a).isSome ↔ certificateReturns a := by
  cases htype : a.type <;>
    simp [certificateAttribute, certificateReturns, htype, TemplateState.checkTrue,
      isSome_readBool, isSome_readUlong]

theorem isSome_ecPrivateKeyAttribute (st : TemplateState (PkContext ρ ε)) (a : CkAttribute) :
    (ecPrivateKeyAttribute mbed stack st a).isSome ↔ ecPrivateKeyReturns st.ctx.isEc a := by
  cases htype : a.type
  case ckaValue =>
    simp only [ecPrivateKeyAttribute, ecPrivateKeyReturns, htype]
    rw [← isSome_input]
    cases a.input <;> cases st.ctx <;> simp [PkContext.isEc]
  all_goals
    simp [ecPrivateKeyAttribute, ecPrivateKeyReturns, htype, TemplateState.checkTrue,
      TemplateState.ecParams, CkAttribute.bytes, isSome_readBool, isSome_read]

theorem isSome_ecPublicKeyAttribute (st : TemplateState (EcVars ρ ε)) (a : CkAttribute) :
    (ecPublicKeyAttribute mbed stack st a).isSome ↔ ecPublicKeyReturns st.ctx.pk.isEc a := by
  cases htype : a.type
  case ckaEcPoint =>
    simp only [ecPublicKeyAttribute, ecPublicKeyReturns, htype]
    cases a.pValue <;> cases st.ctx.pk <;> simp [PkContext.isEc]
  all_goals
    simp [ecPublicKeyAttribute, ecPublicKeyReturns, htype, TemplateState.ecParams,
      CkAttribute.bytes, isSome_readBool, isSome_read, isSome_checkTrueWhole]

theorem isSome_rsaPrivateKeyAttribute (st : TemplateState (RsaVars ρ)) (a : CkAttribute) :
    (rsaPrivateKeyAttribute mbed st a).isSome ↔ rsaPrivateKeyReturns a := by
  cases htype : a.type
  all_goals
    simp [rsaPrivateKeyAttribute, rsaPrivateKeyReturns, htype, rsaField, isSome_readBool,
      isSome_checkTrueWhole, isSome_readField]

theorem isSome_prvCreateRsaPrivateKey (st : TemplateState (RsaVars ρ)) :
    (prvCreateRsaPrivateKey mbed template st).isSome ↔
      ∀ b, Reaches (fieldGoes mbed) st.ctx.rsa template b → rsaPrivateKeyReturns b := by
  induction template generalizing st with
  | nil => exact iff_of_true rfl fun b hb => absurd hb not_reaches_nil
  | cons a as ih =>
    rw [prvCreateRsaPrivateKey, forall_reaches_cons, ← isSome_rsaPrivateKeyAttribute st a]
    cases hone : rsaPrivateKeyAttribute mbed st a with
    | none => simp
    | some r =>
      obtain ⟨r, st'⟩ := r
      rw [rsaPrivateKeyAttribute_takes hone]
      by_cases hr : r = 0
      · simp [hr, ih st']
      · simp [hr]

theorem isEc_ecContext (context : Bool) : (ecContext mbed context).isEc = context := by
  cases context <;> rfl

/-- A loop over an EC key keeps its context or has none. -/
theorem isEc_ecPrivateKeyAttribute {st st' : TemplateState (PkContext ρ ε)}
    (h : ecPrivateKeyAttribute mbed stack st a = some st') : st'.ctx.isEc = st.ctx.isEc := by
  by_cases hvalue : a.type = .ckaValue
  · simp only [ecPrivateKeyAttribute, hvalue] at h
    split at h
    · rename_i v e hv hctx
      cases h
      rw [hctx]
      split_ifs <;> rfl
    · cases h
  · rw [ecPrivateKeyAttribute_ctx h hvalue]

theorem isEc_ecPublicKeyAttribute {st st' : TemplateState (EcVars ρ ε)}
    (h : ecPublicKeyAttribute mbed stack st a = some st') : st'.ctx.pk.isEc = st.ctx.pk.isEc := by
  by_cases hpoint : a.type = .ckaEcPoint
  · simp only [ecPublicKeyAttribute, hpoint] at h
    split at h
    · rename_i v e hv hctx
      cases h
      rw [hctx]
      split_ifs <;> rfl
    · cases h
  · rw [ecPublicKeyAttribute_pk h hpoint]

theorem isSome_keyState (hkey : kind ≠ .certificate)
    (hctx : kind = .rsaPrivateKey → ans.mallocContext = true) :
    (keyState mbed template ans kind).isSome ↔ kind.Returns mbed template ans := by
  cases kind with
  | certificate => exact absurd rfl hkey
  | rsaPrivateKey =>
    rw [keyState, Option.isSome_map, isSome_prvCreateRsaPrivateKey]
    exact ⟨fun h _ => h, fun h => h (hctx rfl)⟩
  | ecPrivateKey =>
    refine isSome_foldlM_iff (I := fun st : TemplateState (PkContext ρ ε) =>
      st.ctx.isEc = ans.mallocContext) (fun st b hst => ?_) (fun st b st' hst h => ?_) template ?_
    · rw [isSome_ecPrivateKeyAttribute, hst]
    · exact (isEc_ecPrivateKeyAttribute h).trans hst
    · exact isEc_ecContext _
  | ecPublicKey =>
    rw [keyState, Option.isSome_map]
    refine isSome_foldlM_iff (I := fun st : TemplateState (EcVars ρ ε) =>
      st.ctx.pk.isEc = ans.mallocContext) (fun st b hst => ?_) (fun st b st' hst h => ?_) template ?_
    · rw [isSome_ecPublicKeyAttribute, hst]
    · exact (isEc_ecPublicKeyAttribute h).trans hst
    · exact isEc_ecContext _

theorem isSome_certificatePlan :
    (certificatePlan (ρ := ρ) (ε := ε) template).isSome ↔ ∀ b ∈ template, certificateReturns b := by
  rw [certificatePlan, Option.isSome_map]
  exact isSome_foldlM_iff (I := fun _ => True) (fun st b _ => isSome_certificateAttribute st b)
    (fun _ _ _ _ _ => trivial) template trivial

/-- The class, the key type and the attributes that a call comes to are there. -/
structure ParserReturns (mbed : Mbed ρ ε κ) (template : List CkAttribute) (ans : CreateAns) :
    Prop where
  xClass : ∀ c, template.find? (fun b => b.type = .ckaClass) = some c → c.pValue ≠ none
  xKeyType : firstUlong .ckaClass template = some ckoPrivateKey ∨
    firstUlong .ckaClass template = some ckoPublicKey →
    ∀ c, template.find? (fun b => b.type = .ckaKeyType) = some c → c.pValue ≠ none
  attributes : ∀ kind, ImportKind.ofTemplate template = some kind → kind.Returns mbed template ans

/-- The first attribute of a type: there is none, it cannot be read, or it is read. -/
theorem firstUlong_cases (type : AttributeType) (template : List CkAttribute) :
    template.find? (fun b => b.type = type) = none ∧ firstUlong type template = none ∨
    (∃ c, template.find? (fun b => b.type = type) = some c ∧ c.pValue = none ∧ c.readUlong = none ∧
      firstUlong type template = none) ∨
    ∃ c n, template.find? (fun b => b.type = type) = some c ∧ c.pValue ≠ none ∧
      firstUlong type template = some n := by
  unfold firstUlong
  cases template.find? (fun b => b.type = type) with
  | none => exact .inl ⟨rfl, rfl⟩
  | some c =>
    cases hn : c.readUlong with
    | none =>
      have hnot : ¬c.pValue ≠ none := by simp [← isSome_readUlong, hn]
      exact .inr (.inl ⟨c, rfl, not_not.1 hnot, hn, hn⟩)
    | some n => exact .inr (.inr ⟨c, n, rfl, isSome_readUlong.1 (by rw [hn]; rfl), hn⟩)

theorem prvGetKeyType_cases (template : List CkAttribute) :
    (prvGetKeyType template = none ∧
      ¬∀ c, template.find? (fun b => b.type = .ckaKeyType) = some c → c.pValue ≠ none) ∨
    prvGetKeyType template = some (firstUlong .ckaKeyType template) ∧
      ∀ c, template.find? (fun b => b.type = .ckaKeyType) = some c → c.pValue ≠ none := by
  obtain ⟨hfind, hfirst⟩ | ⟨c, hfind, hnull, hread, hfirst⟩ | ⟨c, n, hfind, hval, hfirst⟩ :=
    firstUlong_cases .ckaKeyType template
  · refine .inr ⟨by rw [prvGetKeyType, hfind, hfirst], fun c hc => ?_⟩
    cases hfind.symm.trans hc
  · exact .inl ⟨by simp [prvGetKeyType, hfind, hread], fun h => h c hfind hnull⟩
  · refine .inr ⟨by rw [prvGetKeyType_of_some hfirst, hfirst], fun c' hc' => ?_⟩
    obtain rfl := Option.some.inj (hfind.symm.trans hc')
    exact hval

/-- No import: the template is refused, or its class or key type cannot be read. -/
theorem createPlan_none (mbed : Mbed ρ ε κ) (ans : CreateAns)
    (h : ImportKind.ofTemplate template = none) :
    (createPlan mbed template ans = none ∧ ¬ParserReturns mbed template ans) ∨
    (∃ e, createPlan mbed template ans = some ⟨.error e, []⟩ ∧ e ≠ .ok) ∧
      ParserReturns mbed template ans := by
  have hkind : ∀ kind, ImportKind.ofTemplate template = some kind →
      kind.Returns mbed template ans := by
    intro kind hk
    cases h.symm.trans hk
  obtain ⟨hfind, hfirst⟩ | ⟨c, hfind, hnull, hread, hfirst⟩ | ⟨c, n, hfind, hval, hfirst⟩ :=
    firstUlong_cases .ckaClass template
  · right
    refine ⟨⟨.templateIncomplete, by simp [createPlan, hfind], by decide⟩, ?_, ?_, hkind⟩
    · intro c hc
      cases hfind.symm.trans hc
    · simp [hfirst]
  · left
    refine ⟨by simp [createPlan, hfind, hread], fun hr => hr.xClass c hfind hnull⟩
  · have hclass : ∀ c', template.find? (fun b => b.type = .ckaClass) = some c' → c'.pValue ≠ none := by
      intro c' hc'
      obtain rfl := Option.some.inj (hfind.symm.trans hc')
      exact hval
    have h1 : ckoPublicKey ≠ ckoCertificate := by decide
    have h2 : ckoPublicKey ≠ ckoPrivateKey := by decide
    have h3 : ckkEc ≠ ckkRsa := by decide
    rw [createPlan_class hfirst]
    simp only [ImportKind.ofTemplate, hfirst, Option.some.injEq] at h
    split_ifs at h ⊢ with hcert hprv hrsa hec hpub hec
    · -- a private key of no type that there is an import for
      obtain ⟨hget, hnull⟩ | ⟨hget, hread⟩ := prvGetKeyType_cases template
      · exact .inl ⟨by rw [privateKeyPlan, hget], fun hr => hnull (hr.xKeyType (.inl (hprv ▸ hfirst)))⟩
      · refine .inr ⟨⟨.mechanismInvalid, ?_, by decide⟩, hclass, fun _ => hread, hkind⟩
        simp [privateKeyPlan, hget, hrsa, hec]
    · -- a public key
      obtain ⟨hget, hnull⟩ | ⟨hget, hread⟩ := prvGetKeyType_cases template
      · exact .inl ⟨by rw [publicKeyPlan, hget], fun hr => hnull (hr.xKeyType (.inr (hpub ▸ hfirst)))⟩
      · by_cases hrsa : firstUlong .ckaKeyType template = some ckkRsa
        · refine .inr ⟨⟨.attributeTypeInvalid, ?_, by decide⟩, hclass, fun _ => hread, hkind⟩
          simp [publicKeyPlan, hget, hrsa]
        · refine .inr ⟨⟨.mechanismInvalid, ?_, by decide⟩, hclass, fun _ => hread, hkind⟩
          simp [publicKeyPlan, hget, hrsa, hec]
    · refine .inr ⟨⟨.attributeValueInvalid, rfl, by decide⟩, hclass, fun hkey => ?_, hkind⟩
      rw [hfirst, Option.some.injEq, Option.some.injEq] at hkey
      exact absurd hkey (not_or.2 ⟨hprv, hpub⟩)

theorem parserReturns_iff (h : ImportKind.ofTemplate template = some kind) :
    ParserReturns mbed template ans ↔ kind.Returns mbed template ans := by
  refine ⟨fun hr => hr.attributes kind h, fun hr => ⟨?_, ?_, ?_⟩⟩
  · intro c hfind hnull
    have hn : firstUlong .ckaClass template = none := by
      simp [firstUlong, hfind, CkAttribute.readUlong, CkAttribute.read, hnull]
    simp [ImportKind.ofTemplate, hn] at h
  · intro hkey c hfind hnull
    have hn : firstUlong .ckaKeyType template = none := by
      simp [firstUlong, hfind, CkAttribute.readUlong, CkAttribute.read, hnull]
    have h1 : ckoPrivateKey ≠ ckoCertificate := by decide
    have h2 : ckoPublicKey ≠ ckoCertificate := by decide
    obtain hclass | hclass := hkey <;> simp [ImportKind.ofTemplate, hn, hclass, h1, h2] at h
  · intro kind' h'
    obtain rfl := Option.some.inj (h.symm.trans h')
    exact hr

/-- **When the parsers return.** -/
theorem isSome_createPlan :
    (createPlan mbed template ans).isSome ↔ ParserReturns mbed template ans := by
  cases hkind : ImportKind.ofTemplate template with
  | none =>
    obtain ⟨hplan, hno⟩ | ⟨⟨e, hplan, -⟩, hret⟩ := createPlan_none mbed ans hkind
    · simp [hplan, hno]
    · simp [hplan, hret]
  | some kind =>
    rw [parserReturns_iff hkind]
    by_cases hcert : kind = .certificate
    · subst hcert
      rw [createPlan_certificate hkind, isSome_certificatePlan]
      rfl
    · rw [createPlan_key hkind hcert]
      by_cases hmalloc : kind = .rsaPrivateKey ∧ ans.mallocContext = false
      · rw [if_pos hmalloc]
        obtain ⟨rfl, hmalloc⟩ := hmalloc
        exact iff_of_true rfl fun h => absurd (hmalloc.symm.trans h) Bool.false_ne_true
      · rw [if_neg hmalloc, Option.isSome_map, isSome_keyState hcert]
        intro hrsa
        by_contra hfalse
        exact hmalloc ⟨hrsa, Bool.eq_false_iff.2 hfalse⟩

/-! ## Saving and listing -/

def SaveObject.pal : SaveObject κ → ObjectHandle
  | .certificate _ pal => pal
  | .key _ _ _ pal => pal

/-- PSA takes the object. -/
def SaveObject.Granted (p : PsaStores κ) (a : SaveAns) (data : List UInt8) : SaveObject κ → Prop
  | .certificate uid _ => (p.psSet uid data a.psSet).2 = psaSuccess
  | .key _ id k _ => (p.newKey id k a.importKey).2.1 = psaSuccess

/-- PSA holds the object under its label, and `P11KeyConfig` says where. -/
def SaveObject.StoredIn (d : Device κ) (label data : List UInt8) : SaveObject κ → Prop
  | .certificate uid pal => ∃ x : DeviceCertificate, label = x.label ∧ uid = x.uid ∧
      pal = (TokenObject.certificate x).pal ∧ x.marked d.p11.p11KeyConfig = true ∧
      d.psa.objects uid = some data
  | .key slot _ k pal => label = slot.label ∧ pal = (TokenObject.key slot).pal ∧
      d.p11.p11KeyConfig.mark slot = true ∧
      d.psa.keys (d.p11.p11KeyConfig.handle slot).toNat = some k

/-- The device with the object in PSA and in `P11KeyConfig`. -/
def SaveObject.savedIn (d : Device κ) (label data : List UInt8) (a : SaveAns) :
    SaveObject κ → Device κ
  | .certificate uid _ =>
    ⟨{ d.p11 with
      p11KeyConfig := pkcs11PsaContextImportObject d.p11.p11KeyConfig label pkcs11ObjectHandleNa },
      { d.psa with objects := Function.update d.psa.objects uid (some data) }⟩
  | .key _ id k _ =>
    ⟨{ d.p11 with
      p11KeyConfig := pkcs11PsaContextImportObject d.p11.p11KeyConfig label (newId id a.importKey) },
      d.psa.addKey (newId id a.importKey) k⟩

/-- What is handed to the save is saved as `o`. -/
structure Saved (mbed : Mbed ρ ε κ) (d : Device κ) (ans : CreateAns) (plan : SavePlan ρ ε)
    (xClass : Nat) (label : List UInt8) (o : SaveObject κ) : Prop where
  readClass : plan.pxClass.bind (·.readUlong) = some xClass
  readLabel : plan.pxLabel.bind (·.string) = some label
  size : plan.ulDataSize ≤ pkcs11ObjectMaxSize
  object : saveObject mbed xClass label plan.pucData plan.pvContext = some o
  granted : o.Granted d.psa ans.save plan.pucData

/-- The save returns: it reads the class, and compares a label only if there is one. -/
def SaveReturns (plan : SavePlan ρ ε) : Prop :=
  ∃ xClass, plan.pxClass.bind (·.readUlong) = some xClass ∧
    (plan.ulDataSize ≤ pkcs11ObjectMaxSize →
      xClass = ckoCertificate ∨ xClass = ckoPublicKey ∨ xClass = ckoPrivateKey →
      ∃ label, plan.pxLabel.bind (·.string) = some label)

theorem saveObject_pal {xClass : Nat} {label data : List UInt8} {pk : Option (PkContext ρ ε)}
    {o : SaveObject κ} (h : saveObject mbed xClass label data pk = some o) :
    (∃ x : DeviceCertificate, o = .certificate x.uid (TokenObject.certificate x).pal ∧
      label = x.label ∧ xClass = ckoCertificate) ∨
    ∃ (k : DeviceKey) (id : KeyHandle) (key : StoredKey κ),
      o = .key k id key (TokenObject.key k).pal ∧ label = k.label ∧
      xClass = (if k = .devicePrivate then ckoPrivateKey else ckoPublicKey) := by
  unfold saveObject at h
  split_ifs at h with h1 h2 h3 h4 h5 h6
  · exact .inl ⟨.device, (Option.some.inj h).symm, h1.2, h1.1⟩
  · exact .inl ⟨.jitp, (Option.some.inj h).symm, h2.2, h2.1⟩
  · exact .inl ⟨.root, (Option.some.inj h).symm, h3.2, h3.1⟩
  · obtain ⟨key, -, rfl⟩ := Option.map_eq_some_iff.1 h
    exact .inr ⟨.devicePrivate, _, key, rfl, h4.2, h4.1⟩
  · obtain ⟨key, -, rfl⟩ := Option.map_eq_some_iff.1 h
    exact .inr ⟨.codeVerify, _, key, rfl, h5.2, h5.1⟩
  · obtain ⟨key, -, rfl⟩ := Option.map_eq_some_iff.1 h
    exact .inr ⟨.devicePublic, _, key, rfl, h6.2, h6.1⟩

/-- A label is that of one class. -/
theorem saveObject_class {m n : Nat} {label data data' : List UInt8}
    {pk pk' : Option (PkContext ρ ε)} {o o' : SaveObject κ}
    (h : saveObject mbed m label data pk = some o)
    (h' : saveObject mbed n label data' pk' = some o') : m = n := by
  obtain ⟨x, -, hx, hm⟩ | ⟨k, id, key, -, hk, hm⟩ := saveObject_pal h <;>
    obtain ⟨x', -, hx', hn⟩ | ⟨k', id', key', -, hk', hn⟩ := saveObject_pal h'
  · rw [hm, hn]
  · have heq : (TokenObject.certificate x).label = (TokenObject.key k').label := hx.symm.trans hk'
    cases TokenObject.label_inj heq
  · have heq : (TokenObject.key k).label = (TokenObject.certificate x').label := hk.symm.trans hx'
    cases TokenObject.label_inj heq
  · obtain rfl := label_inj (hk.symm.trans hk')
    rw [hm, hn]

theorem import_certificate (c : P11KeyConfig) (x : DeviceCertificate) (h : KeyHandle) :
    x.marked (pkcs11PsaContextImportObject c x.label h) = true := by
  cases x <;> rfl

/-- What is saved is stored. -/
theorem savedIn_stored {xClass : Nat} {label data : List UInt8} {pk : Option (PkContext ρ ε)}
    {o : SaveObject κ} (h : saveObject mbed xClass label data pk = some o) {d d' : Device κ}
    {a : SaveAns} (hcfg : d'.p11.p11KeyConfig = (o.savedIn d label data a).p11.p11KeyConfig)
    (hpsa : d'.psa = (o.savedIn d label data a).psa) : o.StoredIn d' label data := by
  obtain ⟨x, rfl, rfl, -⟩ | ⟨k, id, key, rfl, rfl, -⟩ := saveObject_pal h
  · exact ⟨x, rfl, rfl, rfl, hcfg ▸ import_certificate _ x _, by simp [hpsa, SaveObject.savedIn]⟩
  · simp only [SaveObject.savedIn, import_key] at hcfg hpsa
    exact ⟨rfl, rfl, by simp [hcfg], by simp [hcfg, hpsa, PsaStores.addKey]⟩

theorem bytes_of_string {l : Option CkAttribute} {label : List UInt8}
    (h : l.bind (·.string) = some label) : ∃ bytes, l.bind (·.bytes) = some bytes := by
  obtain ⟨b, rfl, hb⟩ := Option.bind_eq_some_iff.1 h
  obtain ⟨v, hv, -⟩ := Option.map_eq_some_iff.1 hb
  exact ⟨_, by simp [CkAttribute.bytes, CkAttribute.read, hv]; rfl⟩

/-- What `PKCS11PSASaveObject` comes to: it stops at a label that is not there, saves nothing, or saves
an object. -/
inductive SaveOutcome (mbed : Mbed ρ ε κ) (d : Device κ) (ans : CreateAns) (plan : SavePlan ρ ε) :
    Option (ObjectHandle × P11KeyConfig × PsaStores κ) → Prop
  | stops : ¬SaveReturns plan → SaveOutcome mbed d ans plan none
  | unsaved : SaveReturns plan → (∀ xClass label o, ¬Saved mbed d ans plan xClass label o) →
      SaveOutcome mbed d ans plan (some (ckInvalidHandle, d.p11.p11KeyConfig, d.psa))
  | saved {xClass : Nat} {label : List UInt8} {o : SaveObject κ} :
      Saved mbed d ans plan xClass label o →
      SaveOutcome mbed d ans plan (some (o.pal, (o.savedIn d label plan.pucData ans.save).p11.p11KeyConfig,
        (o.savedIn d label plan.pucData ans.save).psa))

theorem save_outcome (mbed : Mbed ρ ε κ) (d : Device κ) (ans : CreateAns) (plan : SavePlan ρ ε)
    {xClass : Nat} (hclass : plan.pxClass.bind (·.readUlong) = some xClass) :
    SaveOutcome mbed d ans plan (pkcs11PsaSaveObject mbed d.psa d.p11.p11KeyConfig xClass
      (plan.pxLabel.bind (·.string)) plan.pucData plan.ulDataSize plan.pvContext ans.save) := by
  unfold pkcs11PsaSaveObject
  by_cases hsize : plan.ulDataSize ≤ pkcs11ObjectMaxSize
  · rw [if_pos hsize]
    cases hlabel : plan.pxLabel.bind (·.string) with
    | none =>
      by_cases hknown : xClass = ckoCertificate ∨ xClass = ckoPublicKey ∨ xClass = ckoPrivateKey
      · simp only [if_pos hknown]
        apply SaveOutcome.stops
        rintro ⟨n, hn, hret⟩
        obtain rfl := Option.some.inj (hclass.symm.trans hn)
        obtain ⟨label, hl⟩ := hret hsize hknown
        cases hlabel.symm.trans hl
      · simp only [if_neg hknown]
        refine .unsaved ⟨xClass, hclass, fun _ hk => absurd hk hknown⟩ fun n label o hs => ?_
        cases hlabel.symm.trans hs.readLabel
    | some label =>
      have hret : SaveReturns plan := ⟨xClass, hclass, fun _ _ => ⟨label, hlabel⟩⟩
      -- what is saved is what `saveObject` says
      have hsaved : ∀ {n label' o'}, Saved mbed d ans plan n label' o' →
          saveObject mbed xClass label plan.pucData plan.pvContext = some o' := by
        intro n label' o' hs
        obtain rfl := Option.some.inj (hclass.symm.trans hs.readClass)
        obtain rfl := Option.some.inj (hlabel.symm.trans hs.readLabel)
        exact hs.object
      dsimp only
      cases ho : saveObject mbed xClass label plan.pucData plan.pvContext with
      | none => exact .unsaved hret fun n label' o hs => absurd (ho.symm.trans (hsaved hs)) nofun
      | some o =>
        have hno : ¬o.Granted d.psa ans.save plan.pucData →
            ∀ n label o, ¬Saved mbed d ans plan n label o := by
          intro hgrant n label' o' hs
          obtain rfl := Option.some.inj (ho.symm.trans (hsaved hs))
          exact hgrant hs.granted
        have hyes : o.Granted d.psa ans.save plan.pucData → Saved mbed d ans plan xClass label o :=
          fun hgrant => ⟨hclass, hlabel, hsize, ho, hgrant⟩
        obtain ⟨x, rfl, rfl, -⟩ | ⟨k, id, key, rfl, rfl, -⟩ := saveObject_pal ho
        · cases hf : ans.save.psSet with
          | some e =>
            have hset : (d.psa.psSet x.uid plan.pucData (some e)).2 ≠ psaSuccess := e.2
            simp only [if_neg hset]
            exact .unsaved hret (hno (by simpa only [SaveObject.Granted, hf]))
          | none =>
            simp only [PsaStores.psSet, if_true]
            exact .saved (hyes (by simp [SaveObject.Granted, PsaStores.psSet, hf]))
        · obtain ⟨-, st, hst, hnew⟩ | ⟨-, hnew⟩ := newKey_eq d.psa id key ans.save.importKey
          · simp only [hnew, if_neg hst]
            exact .unsaved hret (hno (by simp [SaveObject.Granted, hnew, hst]))
          · simp only [hnew, if_true]
            exact .saved (hyes (by simp [SaveObject.Granted, hnew]))
  · rw [if_neg hsize]
    exact .unsaved ⟨xClass, hclass, fun hle => absurd hle hsize⟩ fun n label o hs => hsize hs.size

theorem Saved.returns {d : Device κ} {plan : SavePlan ρ ε} {xClass : Nat} {label : List UInt8}
    {o : SaveObject κ} (h : Saved mbed d ans plan xClass label o) : SaveReturns plan :=
  ⟨xClass, h.readClass, fun _ _ => ⟨label, h.readLabel⟩⟩

theorem Saved.pal_ne {d : Device κ} {plan : SavePlan ρ ε} {xClass : Nat} {label : List UInt8}
    {o : SaveObject κ} (h : Saved mbed d ans plan xClass label o) : o.pal ≠ ckInvalidHandle := by
  obtain ⟨x, rfl, -⟩ | ⟨k, id, key, rfl, -⟩ := saveObject_pal h.object <;> exact TokenObject.pal_ne _

/-- What the end of an import comes to: as `SaveOutcome`, and the object that is saved is listed or not. -/
inductive ImportOutcome (mbed : Mbed ρ ε κ) (d : Device κ) (ans : CreateAns) (plan : SavePlan ρ ε)
    (pxObject : ObjectHandle) : Option (CkRv × ObjectHandle × Device κ) → Prop
  | stops : ¬SaveReturns plan → ImportOutcome mbed d ans plan pxObject none
  | unsaved : SaveReturns plan → (∀ xClass label o, ¬Saved mbed d ans plan xClass label o) →
      ImportOutcome mbed d ans plan pxObject (some (.deviceMemory, pxObject, d))
  | listed {xClass : Nat} {label bytes : List UInt8} {o : SaveObject κ} {d' : Device κ}
      (i : Fin pkcs11configMaxNumObjects) : Saved mbed d ans plan xClass label o →
      o.StoredIn d' label plan.pucData → plan.pxLabel.bind (·.bytes) = some bytes →
      (prvAddObjectToList ans.lock d.p11.xObjectList o.pal bytes).1 = .ok →
      (d'.p11.xObjectList.xObjects i).xHandle = o.pal →
      ImportOutcome mbed d ans plan pxObject (some (.ok, appHandle i, d'))
  | unlisted {xClass : Nat} {label bytes : List UInt8} {o : SaveObject κ} {rv : CkRv} :
      Saved mbed d ans plan xClass label o → plan.pxLabel.bind (·.bytes) = some bytes →
      (prvAddObjectToList ans.lock d.p11.xObjectList o.pal bytes).1 ≠ .ok → rv ≠ .ok →
      ImportOutcome mbed d ans plan pxObject
        (some (rv, pxObject, o.savedIn d label plan.pucData ans.save))

theorem import_outcome (mbed : Mbed ρ ε κ) (d : Device κ) (ans : CreateAns) (plan : SavePlan ρ ε)
    (pxObject : ObjectHandle) :
    ImportOutcome mbed d ans plan pxObject (saveAndAdd mbed d plan pxObject ans) := by
  unfold saveAndAdd
  cases hclass : plan.pxClass.bind (·.readUlong) with
  | none => exact .stops fun ⟨_, hn, _⟩ => by cases hclass.symm.trans hn
  | some xClass =>
    have hsave := save_outcome mbed d ans plan hclass
    dsimp only
    generalize pkcs11PsaSaveObject mbed d.psa d.p11.p11KeyConfig xClass _ _ _ _ _ = r at hsave
    cases hsave with
    | stops h => exact .stops h
    | unsaved h hno => exact .unsaved h hno
    | @saved n label o hs =>
      obtain ⟨bytes, hbytes⟩ := bytes_of_string hs.readLabel
      have hp11 : (o.savedIn d label plan.pucData ans.save).p11 = { d.p11 with
          p11KeyConfig := (o.savedIn d label plan.pucData ans.save).p11.p11KeyConfig } := by
        cases o <;> rfl
      simp only [if_neg hs.pal_ne, hbytes]
      have hadd := prvAddObjectToList_outcome ans.lock d.p11.xObjectList o.pal bytes
      generalize hr : prvAddObjectToList ans.lock d.p11.xObjectList o.pal bytes = r at hadd
      generalize ans.lock = lock at hadd
      have hunlisted : ∀ rv, rv ≠ .ok → r = (rv, none, d.p11.xObjectList) →
          ImportOutcome mbed d ans plan pxObject
            (some (rv, pxObject, o.savedIn d label plan.pucData ans.save)) :=
        fun rv hrv hr' => .unlisted hs hbytes (by rw [hr, hr']; exact hrv) hrv
      cases hadd with
      | locked => exact hp11 ▸ hunlisted .cantLock nofun rfl
      | present i hi =>
        exact .listed i hs (savedIn_stored hs.object rfl rfl) hbytes (by rw [hr]) hi
      | inserted i _ _ _ =>
        exact .listed i hs (savedIn_stored hs.object rfl rfl) hbytes (by rw [hr]) (by simp)
      | full => exact hp11 ▸ hunlisted .bufferTooSmall nofun rfl
      | long => exact hp11 ▸ hunlisted .dataLenRange nofun rfl

/-! ## What the parsers hand on -/

theorem derPlan_ok {st : TemplateState (PkContext ρ ε)} {heap heap' : List HeapOp} {mallocDer : Bool}
    {write : Except CkRv (List UInt8 × Nat)} {plan : SavePlan ρ ε}
    (h : derPlan st heap mallocDer write = ⟨.ok plan, heap'⟩) :
    st.xResult = .ok ∧ mallocDer = true ∧ plan.pxLabel = st.pxLabel := by
  unfold derPlan at h
  split_ifs at h with hok hder
  · cases write with
    | error e => cases h
    | ok w =>
      cases h
      exact ⟨hok, hder, rfl⟩
  all_goals cases h

theorem derPlan_error {st : TemplateState (PkContext ρ ε)} {heap heap' : List HeapOp}
    {mallocDer : Bool} {write : Except CkRv (List UInt8 × Nat)} {e : CkRv}
    (hwrite : ∀ e, write = .error e → e ≠ .ok)
    (h : derPlan st heap mallocDer write = ⟨.error e, heap'⟩) : e ≠ .ok := by
  unfold derPlan at h
  split_ifs at h with hok hder
  · cases write with
    | error e =>
      cases h
      exact hwrite _ rfl
    | ok w => cases h
  · cases h
    exact nofun
  · cases h
    exact hok

theorem writePrivateKey_error {pk : PkContext ρ ε} {e : CkRv}
    (h : writePrivateKey mbed pk = .error e) : e ≠ .ok := by
  unfold writePrivateKey at h
  split at h
  · cases h
  · cases h
    exact nofun

theorem writePublicKey_error (pk : PkContext ρ ε) (e : CkRv) :
    writePublicKey mbed pk ≠ .error e := by
  unfold writePublicKey
  split <;> exact nofun

theorem writeKey_error {pk : PkContext ρ ε} {e : CkRv} (h : writeKey mbed pk kind = .error e) :
    e ≠ .ok := by
  cases kind
  case ecPublicKey => exact absurd h (writePublicKey_error pk e)
  all_goals exact writePrivateKey_error h

/-- **The errors of the parsers.** -/
theorem createPlan_error {e : CkRv} {heap : List HeapOp}
    (h : createPlan mbed template ans = some ⟨.error e, heap⟩) : e ≠ .ok := by
  cases hkind : ImportKind.ofTemplate template with
  | none =>
    obtain ⟨hplan, -⟩ | ⟨⟨e', hplan, hne⟩, -⟩ := createPlan_none mbed ans hkind
    · cases hplan.symm.trans h
    · cases hplan.symm.trans h
      exact hne
  | some kind =>
    by_cases hcert : kind = .certificate
    · subst hcert
      rw [createPlan_certificate hkind] at h
      obtain ⟨st, -, hst⟩ := Option.map_eq_some_iff.1 h
      split at hst
      · by_cases hok : st.xResult = .ok
        · rw [if_pos hok] at hst
          cases hst
        · rw [if_neg hok] at hst
          exact Except.error.inj (congrArg Prepared.plan hst) ▸ hok
      · cases hst
        exact nofun
    · rw [createPlan_key hkind hcert] at h
      by_cases hmalloc : kind = .rsaPrivateKey ∧ ans.mallocContext = false
      · rw [if_pos hmalloc] at h
        cases h
        exact nofun
      · rw [if_neg hmalloc] at h
        obtain ⟨st, -, hst⟩ := Option.map_eq_some_iff.1 h
        exact derPlan_error (fun _ => writeKey_error) hst

/-- The plan of a certificate that is handed on. -/
theorem createPlan_certificate_ok {plan : SavePlan ρ ε} {heap : List HeapOp}
    (hkind : ImportKind.ofTemplate template = some .certificate)
    (h : createPlan mbed template ans = some ⟨.ok plan, heap⟩) :
    ∃ st, template.foldlM certificateAttribute ⟨none, none, .ok, ⟨none, 0⟩⟩ = some st ∧
      st.xResult = .ok ∧ plan.pxLabel = st.pxLabel ∧ st.ctx.pxCertificateValue ≠ none := by
  rw [createPlan_certificate hkind] at h
  obtain ⟨st, hfold, hst⟩ := Option.map_eq_some_iff.1 h
  split at hst
  · rename_i v l hv hl
    by_cases hok : st.xResult = .ok
    · rw [if_pos hok] at hst
      cases hst
      exact ⟨st, hfold, hok, hl.symm, by rw [hv]; exact nofun⟩
    · rw [if_neg hok] at hst
      cases hst
  · cases hst

/-- The plan of a key that is handed on. -/
theorem createPlan_key_ok {plan : SavePlan ρ ε} {heap : List HeapOp}
    (hkind : ImportKind.ofTemplate template = some kind) (hkey : kind ≠ .certificate)
    (h : createPlan mbed template ans = some ⟨.ok plan, heap⟩) :
    ¬(kind = .rsaPrivateKey ∧ ans.mallocContext = false) ∧ ans.mallocDer = true ∧
      ∃ st, keyState mbed template ans kind = some st ∧ st.xResult = .ok ∧
        plan.pxLabel = st.pxLabel := by
  rw [createPlan_key hkind hkey] at h
  by_cases hmalloc : kind = .rsaPrivateKey ∧ ans.mallocContext = false
  · rw [if_pos hmalloc] at h
    cases h
  · rw [if_neg hmalloc] at h
    obtain ⟨st, hstate, hst⟩ := Option.map_eq_some_iff.1 h
    obtain ⟨hok, hder, hlabel⟩ := derPlan_ok hst
    exact ⟨hmalloc, hder, st, hstate, hok, hlabel⟩

theorem createPlan_ok_kind {plan : SavePlan ρ ε} {heap : List HeapOp}
    (h : createPlan mbed template ans = some ⟨.ok plan, heap⟩) :
    ∃ kind, ImportKind.ofTemplate template = some kind := by
  cases hkind : ImportKind.ofTemplate template with
  | none =>
    obtain ⟨hplan, -⟩ | ⟨⟨e', hplan, -⟩, -⟩ := createPlan_none mbed ans hkind <;>
      cases hplan.symm.trans h
  | some kind => exact ⟨kind, rfl⟩

theorem Labelled.handed {c : α} {st : TemplateState α}
    (h : Labelled (⟨none, none, .ok, c⟩ : TemplateState α) st template) (hok : st.xResult = .ok) :
    (st.pxLabel = none ↔ hasType .ckaLabel template = false) ∧ ∀ l, st.pxLabel = some l →
      l ∈ template ∧ l.type = .ckaLabel ∧ l.ulValueLen ≤ pkcs11configMaxLabelLength :=
  ⟨(h.none_iff hok).trans (and_iff_right rfl), fun l hl => (h.mem hok l hl).resolve_left nofun⟩

/-- **The label that is handed on** is one of the template, if there is one. -/
theorem createPlan_label {plan : SavePlan ρ ε} {heap : List HeapOp}
    (h : createPlan mbed template ans = some ⟨.ok plan, heap⟩) :
    (plan.pxLabel = none ↔ hasType .ckaLabel template = false) ∧ ∀ l, plan.pxLabel = some l →
      l ∈ template ∧ l.type = .ckaLabel ∧ l.ulValueLen ≤ pkcs11configMaxLabelLength := by
  obtain ⟨kind, hkind⟩ := createPlan_ok_kind h
  by_cases hcert : kind = .certificate
  · subst hcert
    obtain ⟨st, hfold, hok, heq, -⟩ := createPlan_certificate_ok hkind h
    rw [heq]
    exact (labelled_foldlM labelled_certificateAttribute hfold).handed hok
  · obtain ⟨-, -, st, hstate, hok, heq⟩ := createPlan_key_ok hkind hcert h
    rw [heq]
    exact (keyState_labelled hstate).handed hok

theorem certificateAttribute_value {st st' : TemplateState CertificateValue}
    (h : certificateAttribute st a = some st') (hvalue : a.type ≠ .ckaValue) : st'.ctx = st.ctx := by
  cases htype : a.type
  case ckaValue => exact absurd htype hvalue
  all_goals
    simp only [certificateAttribute, htype, TemplateState.checkTrue, TemplateState.label,
      Option.map_eq_some_iff, Option.some.injEq] at h
    first
      | (obtain ⟨b, -, rfl⟩ := h; split_ifs <;> rfl)
      | (subst h; rfl)

/-- The value of a certificate is that of an attribute. -/
theorem certificate_value {st st' : TemplateState CertificateValue}
    (h : template.foldlM certificateAttribute st = some st')
    (hvalue : st'.ctx.pxCertificateValue ≠ none) :
    st.ctx.pxCertificateValue ≠ none ∨ ∃ b ∈ template, b.type = .ckaValue ∧ b.pValue ≠ none := by
  induction template generalizing st with
  | nil =>
    obtain rfl := Option.some.inj h
    exact .inl hvalue
  | cons a as ih =>
    rw [List.foldlM_cons] at h
    obtain ⟨st₁, hone, hrest⟩ := Option.bind_eq_some_iff.1 h
    obtain hst₁ | ⟨b, hb, hrest⟩ := ih hrest
    · by_cases htype : a.type = .ckaValue
      · simp only [certificateAttribute, htype, Option.some.injEq] at hone
        subst hone
        exact .inr ⟨a, List.mem_cons_self, htype, hst₁⟩
      · exact .inl (certificateAttribute_value hone htype ▸ hst₁)
    · exact .inr ⟨b, List.mem_cons_of_mem a hb, hrest⟩

/-! ## The law -/

/-- The context of a key is not granted. -/
def NoContext (template : List CkAttribute) (ans : CreateAns) : Prop :=
  ans.mallocContext = false ∧
    ∃ kind, ImportKind.ofTemplate template = some kind ∧ kind ≠ .certificate

/-- A writer of mbedTLS gets a context that is not there: the attributes of an EC key are taken, and the
DER buffer is granted. -/
def WritesNull (mbed : Mbed ρ ε κ) (template : List CkAttribute) (ans : CreateAns) : Prop :=
  ans.mallocContext = false ∧ ans.mallocDer = true ∧
    ∃ kind st, (kind = .ecPrivateKey ∨ kind = .ecPublicKey) ∧
      ImportKind.ofTemplate template = some kind ∧ keyState mbed template ans kind = some st ∧
      st.xResult = .ok

/-- The template has a value of the type. -/
def hasValue (type : AttributeType) (template : List CkAttribute) : Bool :=
  template.any fun a => a.type = type && a.pValue.isSome

/-- The object of a template is imported: its class, key type, label and value are there and are taken,
and it is stored under that label and listed under the handle that is returned. -/
structure Imported (mbed : Mbed ρ ε κ) (template : List CkAttribute) (ans : CreateAns)
    (r : CreateResult κ) (kind : ImportKind) (plan : SavePlan ρ ε) (label : List UInt8)
    (o : SaveObject κ) : Prop where
  xClass : ImportKind.ofTemplate template = some kind
  value : ∀ type ∈ kind.valueTypes, hasValue type template
  taken : kind.Takes mbed template
  parsed : ∃ heap, createPlan mbed template ans = some ⟨.ok plan, heap⟩
  labelled : ∃ l ∈ template, plan.pxLabel = some l ∧ l.type = .ckaLabel ∧
    l.ulValueLen ≤ pkcs11configMaxLabelLength ∧ l.string = some label
  object : saveObject mbed kind.xClass label plan.pucData plan.pvContext = some o
  stored : o.StoredIn r.post label plan.pucData
  listed : ∃ i, r.pxObject = appHandle i ∧ (r.post.p11.xObjectList.xObjects i).xHandle = o.pal

/-- **The law of `C_CreateObject`**: a call that succeeds has imported the object of its template; without
a label, or a context for its key, it fails, and neither of the two is read. -/
structure CreateLaw (mbed : Mbed ρ ε κ) (d : Device κ) (xSession : SessionHandle)
    (pxTemplate : Option (List CkAttribute)) (pxObject : Option ObjectHandle) (ans : CreateAns) :
    Prop where
  imported : ∀ r, cCreateObject mbed d xSession pxTemplate pxObject ans = some r → r.rv = .ok →
    ∃ template kind plan label o, pxTemplate = some template ∧
      Imported mbed template ans r kind plan label o
  refused : ∀ template, pxTemplate = some template →
    hasType .ckaLabel template = false ∨ NoContext template ans →
    (∃ r, cCreateObject mbed d xSession pxTemplate pxObject ans = some r ∧ r.rv ≠ .ok) ∧
      (∀ h s, pxObject = some h → sessionCheck d.p11 xSession = .ok s → ¬WritesNull mbed template ans)

/-- The list takes an object: its mutex is had, there is room if the object is not listed, and then its
label fits. -/
def Listable (lock : Bool) (l : P11ObjectList) (pal : ObjectHandle) (label : List UInt8) : Prop :=
  lock = true ∧ unlisted l pal ≤ (freeSlots l).card ∧
    ((∀ i, (l.xObjects i).xHandle ≠ pal) → label.length < pkcs11configMaxLabelLength)

/-- What the law asks of a template. -/
structure CreateFine (mbed : Mbed ρ ε κ) (d : Device κ) (template : List CkAttribute)
    (ans : CreateAns) : Prop where
  unlabelled : hasType .ckaLabel template = false → ParserReturns mbed template ans ∧
    ∀ plan heap, createPlan mbed template ans = some ⟨.ok plan, heap⟩ → SaveReturns plan
  noContext : NoContext template ans → ParserReturns mbed template ans ∧ ¬WritesNull mbed template ans
  object : ∀ plan heap xClass label o bytes,
    createPlan mbed template ans = some ⟨.ok plan, heap⟩ → Saved mbed d ans plan xClass label o →
    plan.pxLabel.bind (·.bytes) = some bytes →
    Listable ans.lock d.p11.xObjectList o.pal bytes →
    ∃ kind, ImportKind.ofTemplate template = some kind ∧ xClass = kind.xClass ∧
      ∀ type ∈ kind.valueTypes, hasValue type template

variable {d : Device κ} {plan : SavePlan ρ ε} {heap : List HeapOp}

/-- A key without a context is handed on only past a writer that got none. -/
theorem noContext_ok (hno : NoContext template ans)
    (h : createPlan mbed template ans = some ⟨.ok plan, heap⟩) : WritesNull mbed template ans := by
  obtain ⟨hmalloc, kind, hkind, hkey⟩ := hno
  obtain ⟨hrsa, hder, st, hstate, hok, -⟩ := createPlan_key_ok hkind hkey h
  refine ⟨hmalloc, hder, kind, st, ?_, hkind, hstate, hok⟩
  cases kind with
  | certificate => exact absurd rfl hkey
  | rsaPrivateKey => exact absurd ⟨rfl, hmalloc⟩ hrsa
  | ecPrivateKey => exact .inl rfl
  | ecPublicKey => exact .inr rfl

/-- A plan that is handed on has a value that is taken, if the key has its context. -/
theorem createPlan_takes {kind : ImportKind} (hkind : ImportKind.ofTemplate template = some kind)
    (hctx : ¬NoContext template ans)
    (h : createPlan mbed template ans = some ⟨.ok plan, heap⟩) : kind.Takes mbed template := by
  by_cases hcert : kind = .certificate
  · subst hcert
    obtain ⟨st, hfold, -, -, hvalue⟩ := createPlan_certificate_ok hkind h
    exact (certificate_value hfold hvalue).resolve_left (fun hne => hne rfl)
  · obtain ⟨-, -, st, hstate, hok, -⟩ := createPlan_key_ok hkind hcert h
    have hmalloc : ans.mallocContext = true := by
      by_contra hfalse
      exact hctx ⟨Bool.eq_false_iff.2 hfalse, kind, hkind, hcert⟩
    exact keyState_takes hcert hstate hok hmalloc

theorem writesNull_noContext (h : WritesNull mbed template ans) : NoContext template ans := by
  obtain ⟨hmalloc, -, kind, st, hec, hkind, -⟩ := h
  refine ⟨hmalloc, kind, hkind, ?_⟩
  obtain rfl | rfl := hec <;> exact nofun

theorem Saved.unique {n n' : Nat} {label label' : List UInt8} {o o' : SaveObject κ}
    (h : Saved mbed d ans plan n label o) (h' : Saved mbed d ans plan n' label' o') :
    n = n' ∧ label = label' ∧ o = o' := by
  obtain rfl := Option.some.inj (h.readClass.symm.trans h'.readClass)
  obtain rfl := Option.some.inj (h.readLabel.symm.trans h'.readLabel)
  exact ⟨rfl, rfl, Option.some.inj (h.object.symm.trans h'.object)⟩

/-- What a call comes to that gets to the parsers. -/
inductive CreateOutcome (mbed : Mbed ρ ε κ) (d : Device κ) (template : List CkAttribute)
    (pxObject : ObjectHandle) (ans : CreateAns) : Option (CreateResult κ) → Prop
  | stops : createPlan mbed template ans = none →
      CreateOutcome mbed d template pxObject ans none
  | refused {e : CkRv} {heap : List HeapOp} : createPlan mbed template ans = some ⟨.error e, heap⟩ →
      CreateOutcome mbed d template pxObject ans (some ⟨e, pxObject, heap, d⟩)
  | handed {plan : SavePlan ρ ε} {heap : List HeapOp} {r : Option (CkRv × ObjectHandle × Device κ)} :
      createPlan mbed template ans = some ⟨.ok plan, heap⟩ →
      ImportOutcome mbed d ans plan pxObject r →
      CreateOutcome mbed d template pxObject ans (r.map fun (rv, h, d) =>
        ⟨rv, h, heap ++ List.replicate (heap.count .malloc) .free, d⟩)

theorem create_outcome {xSession : SessionHandle} {s : Nat} (hs : sessionCheck d.p11 xSession = .ok s)
    (mbed : Mbed ρ ε κ) (template : List CkAttribute) (pxObject : ObjectHandle) (ans : CreateAns) :
    CreateOutcome mbed d template pxObject ans
      (cCreateObject mbed d xSession (some template) (some pxObject) ans) := by
  unfold cCreateObject
  simp only [hs]
  cases hplan : createPlan mbed template ans with
  | none => exact .stops hplan
  | some r =>
    obtain ⟨plan, heap⟩ := r
    cases plan with
    | error e => exact .refused hplan
    | ok plan =>
      have himport := import_outcome mbed d ans plan pxObject
      dsimp only
      generalize saveAndAdd mbed d plan pxObject ans = r at himport ⊢
      have hhanded := CreateOutcome.handed hplan himport
      cases r with
      | none => exact hhanded
      | some r => exact hhanded

variable {pxObject : ObjectHandle} {r : Option (CreateResult κ)}

theorem create_unlabelled (ho : CreateOutcome mbed d template pxObject ans r)
    (hlabel : hasType .ckaLabel template = false) :
    (∃ x, r = some x ∧ x.rv ≠ .ok) ↔ ParserReturns mbed template ans ∧
      ∀ plan heap, createPlan mbed template ans = some ⟨.ok plan, heap⟩ → SaveReturns plan := by
  cases ho with
  | stops hplan =>
    have hret : ¬ParserReturns mbed template ans := by simp [← isSome_createPlan, hplan]
    exact iff_of_false (by simp) fun h => hret h.1
  | refused hplan =>
    refine iff_of_true ⟨_, rfl, createPlan_error hplan⟩ ⟨?_, fun plan heap h => ?_⟩
    · simp [← isSome_createPlan, hplan]
    · cases hplan.symm.trans h
  | @handed plan heap r hplan himport =>
    have hret : ParserReturns mbed template ans := by simp [← isSome_createPlan, hplan]
    have hsave : SaveReturns plan →
        ∀ plan' heap', createPlan mbed template ans = some ⟨.ok plan', heap'⟩ → SaveReturns plan' := by
      intro h plan' heap' hplan'
      cases hplan.symm.trans hplan'
      exact h
    cases himport with
    | stops hno => exact iff_of_false (by simp) fun h => hno (h.2 _ _ hplan)
    | unsaved h hno => exact iff_of_true (by simp) ⟨hret, hsave h⟩
    | unlisted hs _ _ hrv => exact iff_of_true ⟨_, rfl, hrv⟩ ⟨hret, hsave hs.returns⟩
    | listed _ hs =>
      have hnone := (createPlan_label hplan).1.2 hlabel
      have hread := hs.readLabel
      rw [hnone] at hread
      cases hread

theorem create_noContext (ho : CreateOutcome mbed d template pxObject ans r)
    (hctx : NoContext template ans) :
    (∃ x, r = some x ∧ x.rv ≠ .ok) ∧ ¬WritesNull mbed template ans ↔
      ParserReturns mbed template ans ∧ ¬WritesNull mbed template ans := by
  cases ho with
  | stops hplan =>
    have hret : ¬ParserReturns mbed template ans := by simp [← isSome_createPlan, hplan]
    exact iff_of_false (by simp) fun h => hret h.1
  | refused hplan =>
    have hret : ParserReturns mbed template ans := by simp [← isSome_createPlan, hplan]
    exact and_congr_left fun _ => iff_of_true ⟨_, rfl, createPlan_error hplan⟩ hret
  | handed hplan himport =>
    have hnull := noContext_ok hctx hplan
    exact iff_of_false (fun h => h.2 hnull) fun h => h.2 hnull

theorem create_imported (ho : CreateOutcome mbed d template pxObject ans r)
    (hctx : NoContext template ans → ¬WritesNull mbed template ans) :
    (∀ x, r = some x → x.rv = .ok → ∃ kind plan label o,
      Imported mbed template ans x kind plan label o) ↔
      ∀ plan heap xClass label o bytes,
        createPlan mbed template ans = some ⟨.ok plan, heap⟩ →
        Saved mbed d ans plan xClass label o → plan.pxLabel.bind (·.bytes) = some bytes →
        Listable ans.lock d.p11.xObjectList o.pal bytes →
        ∃ kind, ImportKind.ofTemplate template = some kind ∧ xClass = kind.xClass ∧
          ∀ type ∈ kind.valueTypes, hasValue type template := by
  constructor
  · intro h plan heap xClass label o bytes hplan hs hbytes hlist
    cases ho with
    | stops hno => cases hno.symm.trans hplan
    | refused hno => cases hno.symm.trans hplan
    | handed hplan' himport =>
      cases hplan.symm.trans hplan'
      cases himport with
      | stops hno => exact absurd hs.returns hno
      | unsaved _ hno => exact absurd hs (hno _ _ _)
      | unlisted hs' hbytes' hno =>
        obtain ⟨rfl, rfl, rfl⟩ := hs.unique hs'
        obtain rfl := Option.some.inj (hbytes.symm.trans hbytes')
        exact absurd ((add_ok_iff _ _ _ _).2 hlist) hno
      | listed i hs' =>
        obtain ⟨kind, plan', label', o', himp⟩ := h _ rfl rfl
        obtain ⟨heap', hparsed⟩ := himp.parsed
        cases hplan.symm.trans hparsed
        obtain ⟨l, -, hl, -, -, hstring⟩ := himp.labelled
        have hread := hs.readLabel
        rw [hl, Option.bind_some, hstring] at hread
        obtain rfl := Option.some.inj hread
        exact ⟨kind, himp.xClass, saveObject_class hs.object himp.object, himp.value⟩
  · intro h x hx hrv
    cases ho with
    | stops => cases hx
    | refused hplan =>
      obtain rfl := Option.some.inj hx
      exact absurd hrv (createPlan_error hplan)
    | handed hplan himport =>
      cases himport with
      | stops => cases hx
      | unsaved =>
        obtain rfl := Option.some.inj hx
        cases hrv
      | unlisted _ _ _ hne =>
        obtain rfl := Option.some.inj hx
        exact absurd hrv hne
      | listed i hs hstored hbytes hadd hi =>
        obtain rfl := Option.some.inj hx
        obtain ⟨kind, hkind, rfl, hvalue⟩ :=
          h _ _ _ _ _ _ hplan hs hbytes ((add_ok_iff _ _ _ _).1 hadd)
        have hnot : ¬NoContext template ans := fun hno => hctx hno (noContext_ok hno hplan)
        obtain ⟨l, hl, hstring⟩ := Option.bind_eq_some_iff.1 hs.readLabel
        obtain ⟨hmem, htype, hlen⟩ := (createPlan_label hplan).2 l hl
        exact ⟨kind, _, _, _, hkind, hvalue, createPlan_takes hkind hnot hplan, ⟨_, hplan⟩,
          ⟨l, hmem, hl, htype, hlen, hstring⟩, hs.object, hstored, i, rfl, hi⟩

/-- The law of a call that gets to the parsers. -/
theorem create_law_called {xSession : SessionHandle} {s : Nat}
    (hs : sessionCheck d.p11 xSession = .ok s) :
    CreateLaw mbed d xSession (some template) (some pxObject) ans ↔
      CreateFine mbed d template ans := by
  have ho := create_outcome hs mbed template pxObject ans
  constructor
  · intro hlaw
    have hctx : NoContext template ans → ¬WritesNull mbed template ans :=
      fun hno => (hlaw.refused template rfl (.inr hno)).2 pxObject s rfl hs
    refine ⟨fun hlabel => ?_, fun hno => ?_, (create_imported ho hctx).1 fun x hx hrv => ?_⟩
    · exact (create_unlabelled ho hlabel).1 (hlaw.refused template rfl (.inl hlabel)).1
    · exact (create_noContext ho hno).1 ⟨(hlaw.refused template rfl (.inr hno)).1, hctx hno⟩
    · obtain ⟨template', kind, plan, label, o, ht, himp⟩ := hlaw.imported x hx hrv
      obtain rfl := Option.some.inj ht
      exact ⟨kind, plan, label, o, himp⟩
  · intro hfine
    have hctx : NoContext template ans → ¬WritesNull mbed template ans :=
      fun hno => (hfine.noContext hno).2
    refine ⟨fun x hx hrv => ?_, fun template' ht hor => ?_⟩
    · obtain ⟨kind, plan, label, o, himp⟩ := (create_imported ho hctx).2 hfine.object x hx hrv
      exact ⟨template, kind, plan, label, o, rfl, himp⟩
    · obtain rfl := Option.some.inj ht
      refine ⟨?_, fun _ _ _ _ hnull => hctx (writesNull_noContext hnull) hnull⟩
      obtain hlabel | hno := hor
      · exact (create_unlabelled ho hlabel).2 (hfine.unlabelled hlabel)
      · exact ((create_noContext ho hno).2 (hfine.noContext hno)).1

/-- **When `C_CreateObject` keeps its law.** -/
theorem create_law_iff (mbed : Mbed ρ ε κ) (d : Device κ) (xSession : SessionHandle)
    (pxTemplate : Option (List CkAttribute)) (pxObject : Option ObjectHandle) (ans : CreateAns) :
    CreateLaw mbed d xSession pxTemplate pxObject ans ↔
      ∀ template h s, pxTemplate = some template → pxObject = some h →
        sessionCheck d.p11 xSession = .ok s → CreateFine mbed d template ans := by
  -- a call that does not get to the parsers fails
  have hearly : (∃ r, cCreateObject mbed d xSession pxTemplate pxObject ans = some r ∧ r.rv ≠ .ok) →
      (∀ h s, pxTemplate ≠ none → pxObject = some h → sessionCheck d.p11 xSession ≠ .ok s) →
      CreateLaw mbed d xSession pxTemplate pxObject ans := by
    rintro ⟨r, hr, hrv⟩ hnone
    refine ⟨fun r' hr' hok => ?_, fun template ht _ => ⟨⟨r, hr, hrv⟩, fun h s hobj hs => ?_⟩⟩
    · obtain rfl := Option.some.inj (hr.symm.trans hr')
      exact absurd hok hrv
    · exact absurd hs (hnone h s (by simp [ht]) hobj)
  cases pxTemplate with
  | none => exact iff_of_true (hearly ⟨_, rfl, nofun⟩ fun _ _ h => absurd rfl h) nofun
  | some template =>
    cases pxObject with
    | none => exact iff_of_true (hearly ⟨_, rfl, nofun⟩ nofun) nofun
    | some h =>
      cases hs : sessionCheck d.p11 xSession with
      | error e =>
        refine iff_of_true (hearly ⟨⟨e, h, [], d⟩, ?_, sessionCheck_error_ne hs⟩ ?_) nofun
        · simp only [cCreateObject, hs]
        · simp [hs]
      | ok s =>
        rw [create_law_called hs]
        exact ⟨fun hfine template' _ _ ht _ _ => Option.some.inj ht ▸ hfine,
          fun hall => hall template h s rfl rfl rfl⟩

/-! ## Templates that break it -/

/-- A module that is up, with an open session. -/
def createDevice : Device Unit := { freshDevice with p11 := createState }

/-- Calls that answer well, but for the context of a key. -/
def createAns (mallocContext : Bool) : CreateAns where
  mallocContext := mallocContext
  mallocDer := true
  stack := []
  xBool := ckTrue
  save := ⟨⟨none, 0x40000000, firstVolatile⟩, none⟩
  lock := true

/-- A private EC key: a class, a key type and the rest. -/
def ecTemplate (as : List CkAttribute) : List CkAttribute :=
  ⟨.ckaClass, some [3, 0, 0, 0], 4⟩ :: ⟨.ckaKeyType, some [3, 0, 0, 0], 4⟩ :: as

def labelAttribute (label : List UInt8) : CkAttribute := ⟨.ckaLabel, some (label ++ [0]), label.length⟩

variable {xSession : SessionHandle}

theorem create_stops (hor : hasType .ckaLabel template = false ∨ NoContext template ans)
    (hnone : (cCreateObject mbed d xSession (some template) (some pxObject) ans).isNone = true) :
    ¬CreateLaw mbed d xSession (some template) (some pxObject) ans := by
  intro h
  obtain ⟨⟨r, hr, -⟩, -⟩ := h.refused template rfl hor
  rw [hr] at hnone
  cases hnone

theorem create_accepts (kind : ImportKind) (hkind : ImportKind.ofTemplate template = some kind)
    (hok : (cCreateObject mbed d xSession (some template) (some pxObject) ans).map (·.rv) = some .ok)
    (h : CreateLaw mbed d xSession (some template) (some pxObject) ans) :
    ∃ r plan label o, Imported mbed template ans r kind plan label o := by
  obtain ⟨r, hr, hrv⟩ := Option.map_eq_some_iff.1 hok
  obtain ⟨template', kind', plan, label, o, ht, himp⟩ := h.imported r hr hrv
  obtain rfl := Option.some.inj ht
  obtain rfl := Option.some.inj (himp.xClass.symm.trans hkind)
  exact ⟨r, plan, label, o, himp⟩

/-- **Four templates of a private EC key**: without a label the save compares `NULL`, without a context the
value is read into `NULL`, without a value a key is stored, and a second class makes it a certificate. -/
theorem create_law_breaks :
    ¬CreateLaw unitMbed createDevice (some 0) (some (ecTemplate [])) (some 0) (createAns true) ∧
      ¬CreateLaw unitMbed createDevice (some 0)
        (some (ecTemplate [labelAttribute labelDevicePrivateKeyForTls, ⟨.ckaValue, some [1], 1⟩]))
        (some 0) (createAns false) ∧
      ¬CreateLaw unitMbed createDevice (some 0)
        (some (ecTemplate [labelAttribute labelDevicePrivateKeyForTls])) (some 0) (createAns true) ∧
      ¬CreateLaw unitMbed createDevice (some 0)
        (some (ecTemplate [labelAttribute labelDeviceCertificateForTls, ⟨.ckaValue, some [1], 1⟩,
          ⟨.ckaClass, some [1, 0, 0, 0], 4⟩])) (some 0) (createAns true) := by
  refine ⟨create_stops (.inl (by decide)) (by decide +kernel),
    create_stops (.inr ⟨rfl, .ecPrivateKey, by decide +kernel, nofun⟩) (by decide +kernel),
    fun h => ?_, fun h => ?_⟩
  · obtain ⟨r, plan, label, o, himp⟩ :=
      create_accepts .ecPrivateKey (by decide +kernel) (by decide +kernel) h
    exact absurd (himp.value .ckaValue (by decide)) (by decide)
  · obtain ⟨r, plan, label, o, himp⟩ :=
      create_accepts .ecPrivateKey (by decide +kernel) (by decide +kernel) h
    -- the one label is that of a certificate, and no key is saved under it
    obtain ⟨l, hmem, -, htype, -, hstring⟩ := himp.labelled
    have hlabel : ∀ l ∈ ecTemplate [labelAttribute labelDeviceCertificateForTls,
        ⟨.ckaValue, some [1], 1⟩, ⟨.ckaClass, some [1, 0, 0, 0], 4⟩], l.type = .ckaLabel →
        l.string = some labelDeviceCertificateForTls := by decide +kernel
    obtain rfl := Option.some.inj ((hlabel l hmem htype).symm.trans hstring)
    obtain ⟨x, -, -, hclass⟩ | ⟨k, id, key, -, hk, -⟩ := saveObject_pal himp.object
    · exact absurd hclass (by decide)
    · have heq : (TokenObject.certificate .device).label = (TokenObject.key k).label := hk
      cases TokenObject.label_inj heq

end Pkcs11
