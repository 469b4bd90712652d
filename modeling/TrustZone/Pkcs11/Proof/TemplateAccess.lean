import TrustZone.Pkcs11.Proof.KeyMarks
import TrustZone.Pkcs11.TemplateAccess

/-!
# The template parsers and the memory of the attributes

The parsers of `TemplateAccess` are those of `CreateObject` and `GenerateKeyPair` with a record of what
they do (`result_parseCreate`, `result_parseKeyPair`). Each has its own opinion of the length of an
attribute (`certificateFits` to `publicTemplateFits`); `template_law_iff` says when a call keeps to the
values that it is given, and takes a curve for P-256 only if it is.
-/

namespace Pkcs11

open Lib Psa Crypto Traced

variable {κ ρ ε α : Type} {mbed : Mbed ρ ε κ} {a : CkAttribute} {n size off len : Nat}
  {stack : List UInt8}

/-! ## Accesses -/

/-- What may be done with an attribute: to read its value, to fill a variable, to hand on a part of the
value, and to accept P-256. -/
def Access.Fine : CkAttribute × Access → Prop
  | (a, .copied n size) => n ≤ a.ulValueLen ∧ n ≤ size
  | (a, .compared n) => n ≤ a.ulValueLen
  | (a, .handed off len) => off + len ≤ a.ulValueLen
  | (a, .acceptedCurve) => a.bytes = some pkcs11DerEncodedOidP256

/-- `pValue` points to `ulValueLen` bytes. -/
def CkAttribute.Exact (a : CkAttribute) : Prop := ∃ v, a.pValue = some v ∧ v.length = a.ulValueLen

@[simp] theorem all_copy : (a.copy n size).All Access.Fine ↔ n ≤ a.ulValueLen ∧ n ≤ size :=
  all_single _ _

@[simp] theorem all_copyBool : a.copyBool.All Access.Fine ↔ 1 ≤ a.ulValueLen := by
  simp [CkAttribute.copyBool]

@[simp] theorem all_copyUlong : a.copyUlong.All Access.Fine ↔ 4 ≤ a.ulValueLen := by
  simp [CkAttribute.copyUlong]

@[simp] theorem all_compare : (a.compare n).All Access.Fine ↔ n ≤ a.ulValueLen := all_single _ _

@[simp] theorem all_hand (r : Option α) : (a.hand off len r).All Access.Fine ↔ off + len ≤ a.ulValueLen :=
  all_single _ _

@[simp] theorem all_acceptCurve :
    a.acceptCurve.All Access.Fine ↔ a.bytes = some pkcs11DerEncodedOidP256 := all_single _ _

@[simp] theorem result_copyBool : a.copyBool.result = a.readBool := by
  simp [CkAttribute.copyBool, CkAttribute.copy, CkAttribute.readBool]

@[simp] theorem result_copyUlong : a.copyUlong.result = a.readUlong := by
  simp [CkAttribute.copyUlong, CkAttribute.copy, CkAttribute.readUlong]

@[simp] theorem result_compare : (a.compare n).result = a.read n := rfl

@[simp] theorem result_hand (r : Option α) : (a.hand off len r).result = r := rfl

@[simp] theorem result_acceptCurve : a.acceptCurve.result = some () := rfl

/-! ## The parsers are the ones of the calls -/

@[simp] theorem TemplateState.result_parseTrue (st : TemplateState α) (a : CkAttribute) (e : CkRv) :
    (st.parseTrue a e).result = st.checkTrue a e := by
  simp [TemplateState.parseTrue, TemplateState.checkTrue]

@[simp] theorem TemplateState.result_parseEcParams (st : TemplateState α) (a : CkAttribute)
    (stack : List UInt8) : (st.parseEcParams a stack).result = st.ecParams a stack := by
  unfold TemplateState.parseEcParams TemplateState.ecParams
  rw [result_bind, result_compare, ← CkAttribute.bytes]
  cases a.bytes with
  | none => rfl
  | some v =>
    simp only [Option.bind_some, Option.map_some]
    split_ifs <;> simp

theorem memOf_slice (v : List UInt8) (h : 0 < n) : memOf (slice (memOf v) 0 n) 0 = memOf v 0 := by
  obtain ⟨n, rfl⟩ := Nat.exists_eq_add_of_lt h
  simp [memOf, slice, List.getD_eq_getElem?_getD]

@[simp] theorem TemplateState.result_parseTrueWhole (st : TemplateState α) (a : CkAttribute)
    (xBool : UInt8) (e : CkRv) :
    (st.parseTrueWhole a xBool e).result = st.checkTrueWhole a xBool e := by
  unfold TemplateState.parseTrueWhole TemplateState.checkTrueWhole
  rw [result_map]
  simp only [CkAttribute.copy, CkAttribute.read]
  cases a.pValue with
  | none => simp
  | some v =>
    by_cases hlen : a.ulValueLen ≤ 1
    · simp only [if_pos hlen, if_neg (Nat.not_lt.2 hlen), Option.map_some]
      by_cases hzero : a.ulValueLen = 0
      · simp only [if_pos hzero]
      · simp only [if_neg hzero, memOf_slice v (Nat.pos_of_ne_zero hzero)]
    · simp [hlen, Nat.lt_of_not_le hlen]

theorem result_parseCertificateAttribute (st : TemplateState CertificateValue) (a : CkAttribute) :
    (parseCertificateAttribute st a).result = certificateAttribute st a := by
  cases htype : a.type <;> simp [parseCertificateAttribute, certificateAttribute, htype]

theorem result_parseEcPrivateKeyAttribute (mbed : Mbed ρ ε κ) (stack : List UInt8)
    (st : TemplateState (PkContext ρ ε)) (a : CkAttribute) :
    (parseEcPrivateKeyAttribute mbed stack st a).result = ecPrivateKeyAttribute mbed stack st a := by
  cases htype : a.type
  case ckaValue =>
    simp only [parseEcPrivateKeyAttribute, ecPrivateKeyAttribute, htype, result_bind, result_hand]
    cases a.input with
    | none => rfl
    | some v => cases st.ctx <;> simp
  all_goals simp [parseEcPrivateKeyAttribute, ecPrivateKeyAttribute, htype]

theorem result_parseRsaPrivateKeyAttribute (mbed : Mbed ρ ε κ) (st : TemplateState (RsaVars ρ))
    (a : CkAttribute) :
    (parseRsaPrivateKeyAttribute mbed st a).result = rsaPrivateKeyAttribute mbed st a := by
  cases htype : a.type <;>
    simp [parseRsaPrivateKeyAttribute, rsaPrivateKeyAttribute, htype, rsaField]

theorem result_parseRsaPrivateKey (mbed : Mbed ρ ε κ) (template : List CkAttribute)
    (st : TemplateState (RsaVars ρ)) :
    (parseRsaPrivateKey mbed template st).result = prvCreateRsaPrivateKey mbed template st := by
  induction template generalizing st with
  | nil => rfl
  | cons a as ih =>
    rw [parseRsaPrivateKey, prvCreateRsaPrivateKey, result_bind, result_parseRsaPrivateKeyAttribute]
    cases rsaPrivateKeyAttribute mbed st a with
    | none => rfl
    | some r =>
      simp only [Option.bind_some]
      split_ifs
      · rfl
      · exact ih r.2

theorem result_parseEcPublicKeyAttribute (mbed : Mbed ρ ε κ) (stack : List UInt8)
    (st : TemplateState (EcVars ρ ε)) (a : CkAttribute) :
    (parseEcPublicKeyAttribute mbed stack st a).result = ecPublicKeyAttribute mbed stack st a := by
  cases htype : a.type
  case ckaEcPoint =>
    simp only [parseEcPublicKeyAttribute, ecPublicKeyAttribute, htype, result_bind, result_hand]
    cases a.pValue with
    | none => rfl
    | some v => cases st.ctx.pk <;> simp
  all_goals simp [parseEcPublicKeyAttribute, ecPublicKeyAttribute, htype]

@[simp] theorem result_parseKeyType (template : List CkAttribute) :
    (parseKeyType template).result = prvGetKeyType template := by
  unfold parseKeyType prvGetKeyType
  cases template.find? (·.type = .ckaKeyType) <;> simp

/-- `parseCreate` is the plan of `C_CreateObject`. -/
theorem result_parseCreate (mbed : Mbed ρ ε κ) (template : List CkAttribute) (a : CreateAns) :
    (parseCreate mbed template a).result = createPlan mbed template a := by
  have hcert : (parseCertificate (ρ := ρ) (ε := ε) template).result = certificatePlan template := by
    unfold parseCertificate certificatePlan
    exact (result_map ..).trans (congrArg _ (result_foldlM result_parseCertificateAttribute _ _))
  have hprv : (parsePrivateKey mbed template a).result = privateKeyPlan mbed template a := by
    unfold parsePrivateKey privateKeyPlan
    rw [result_bind, result_parseKeyType]
    cases prvGetKeyType template with
    | none => rfl
    | some xKeyType =>
      simp only [Option.bind_some]
      split_ifs <;>
        simp [result_parseRsaPrivateKey,
          result_foldlM (result_parseEcPrivateKeyAttribute mbed a.stack)]
  have hpub : (parsePublicKey mbed template a).result = publicKeyPlan mbed template a := by
    unfold parsePublicKey publicKeyPlan
    rw [result_bind, result_parseKeyType]
    cases prvGetKeyType template with
    | none => rfl
    | some xKeyType =>
      simp only [Option.bind_some]
      split_ifs <;> simp [result_foldlM (result_parseEcPublicKeyAttribute mbed a.stack)]
  unfold parseCreate createPlan
  cases template.find? (·.type = .ckaClass) with
  | none => rfl
  | some c =>
    simp only [result_bind, result_copyUlong]
    cases c.readUlong with
    | none => rfl
    | some xClass =>
      simp only [Option.bind_some]
      split_ifs
      · exact hcert
      · exact hprv
      · exact hpub
      · rfl

theorem result_parsePrivateTemplateAttribute (st : TemplateCheck) (a : CkAttribute) :
    (parsePrivateTemplateAttribute st a).result = privateTemplateAttribute st a := by
  cases htype : a.type <;>
    simp [parsePrivateTemplateAttribute, privateTemplateAttribute, htype, TemplateCheck.parseTrue,
      TemplateCheck.checkTrue, TemplateCheck.parseKeyType, TemplateCheck.checkKeyType]

theorem TemplateCheck.result_parseEcParams (st : TemplateCheck) (a : CkAttribute) :
    (st.parseEcParams a).result = st.checkEcParams a := by
  unfold TemplateCheck.parseEcParams TemplateCheck.checkEcParams
  rw [result_bind, result_compare]
  cases a.read pkcs11DerEncodedOidP256.length with
  | none => rfl
  | some v =>
    simp only [Option.bind_some, Option.map_some]
    split_ifs <;> simp

theorem result_parsePublicTemplateAttribute (st : TemplateCheck) (a : CkAttribute) :
    (parsePublicTemplateAttribute st a).result = publicTemplateAttribute st a := by
  cases htype : a.type <;>
    simp [parsePublicTemplateAttribute, publicTemplateAttribute, htype, TemplateCheck.parseTrue,
      TemplateCheck.checkTrue, TemplateCheck.parseKeyType, TemplateCheck.checkKeyType,
      TemplateCheck.result_parseEcParams]

@[simp] theorem result_parsePrivateTemplate (template : List CkAttribute) :
    (parsePrivateTemplate template).result = prvCheckGenerateKeyPairPrivateTemplate template := by
  unfold parsePrivateTemplate parseTemplate
  rw [result_map, result_foldlM result_parsePrivateTemplateAttribute]
  rfl

@[simp] theorem result_parsePublicTemplate (template : List CkAttribute) :
    (parsePublicTemplate template).result = prvCheckGenerateKeyPairPublicTemplate template := by
  unfold parsePublicTemplate parseTemplate
  rw [result_map, result_foldlM result_parsePublicTemplateAttribute]
  rfl

/-- `parseKeyPair` is the checks of `C_GenerateKeyPair`. -/
theorem result_parseKeyPair (s : State) (args : KeyPairArgs) (malloc : Bool) :
    (parseKeyPair s args malloc).result = checkKeyPair s args malloc := by
  obtain ⟨xSession, mechanism, pub, prv, hPub, hPrv⟩ := args
  unfold parseKeyPair checkKeyPair
  split_ifs
  · cases sessionCheck s xSession with
    | error e => rfl
    | ok h =>
      cases pub <;> cases prv <;> cases hPub <;> cases hPrv <;> cases mechanism <;> try rfl
      simp only
      split_ifs
      · rfl
      · unfold parseTemplates
        rw [result_bind, result_parsePrivateTemplate]
        rcases prvCheckGenerateKeyPairPrivateTemplate _ with _ | ⟨rv, _ | l⟩
        · rfl
        · cases rv <;> rfl
        · cases rv <;> try rfl
          simp only [Option.bind_some, result_bind, result_parsePublicTemplate]
          rcases prvCheckGenerateKeyPairPublicTemplate _ with _ | ⟨rv, _ | l⟩
          · rfl
          · cases rv <;> rfl
          · cases rv <;> rfl
  · rfl

/-! ## The attributes that each parser is right about -/

/-- P-256 and nothing else is taken for the curve, by a comparison as long as the value. -/
def curveFits (stack : List UInt8) (a : CkAttribute) : Prop :=
  a.bytes = some (slice (memOf (pkcs11DerEncodedOidP256 ++ stack)) 0 a.ulValueLen) →
    a.bytes = some pkcs11DerEncodedOidP256

def certificateFits (a : CkAttribute) : Prop :=
  match a.type with
  | .ckaCertificateType => 4 ≤ a.ulValueLen
  | .ckaToken => 1 ≤ a.ulValueLen
  | _ => True

def ecPrivateKeyFits (stack : List UInt8) (a : CkAttribute) : Prop :=
  match a.type with
  | .ckaToken => 1 ≤ a.ulValueLen
  | .ckaSign => 1 ≤ a.ulValueLen
  | .ckaEcParams => curveFits stack a
  | _ => True

def rsaPrivateKeyFits (a : CkAttribute) : Prop :=
  match a.type with
  | .ckaToken => 1 ≤ a.ulValueLen
  | .ckaSign => a.ulValueLen ≤ 1
  | _ => True

def ecPublicKeyFits (stack : List UInt8) (a : CkAttribute) : Prop :=
  match a.type with
  | .ckaToken => 1 ≤ a.ulValueLen
  | .ckaVerify => a.ulValueLen ≤ 1
  | .ckaEcParams => curveFits stack a
  | .ckaEcPoint => 2 ≤ a.ulValueLen
  | _ => True

def privateTemplateFits (a : CkAttribute) : Prop :=
  match a.type with
  | .ckaToken => 1 ≤ a.ulValueLen
  | .ckaKeyType => 4 ≤ a.ulValueLen
  | .ckaPrivate => 1 ≤ a.ulValueLen
  | .ckaSign => 1 ≤ a.ulValueLen
  | _ => True

def publicTemplateFits (a : CkAttribute) : Prop :=
  match a.type with
  | .ckaToken => 1 ≤ a.ulValueLen
  | .ckaKeyType => 4 ≤ a.ulValueLen
  | .ckaVerify => 1 ≤ a.ulValueLen
  | .ckaEcParams => pkcs11DerEncodedOidP256.length ≤ a.ulValueLen ∧
      (a.read pkcs11DerEncodedOidP256.length = some pkcs11DerEncodedOidP256 →
        a.bytes = some pkcs11DerEncodedOidP256)
  | _ => True

@[simp] theorem all_parseTrue (st : TemplateState α) (e : CkRv) :
    (st.parseTrue a e).All Access.Fine ↔ 1 ≤ a.ulValueLen := by
  simp [TemplateState.parseTrue]

@[simp] theorem all_parseTrueWhole (st : TemplateState α) (xBool : UInt8) (e : CkRv) :
    (st.parseTrueWhole a xBool e).All Access.Fine ↔ a.ulValueLen ≤ 1 := by
  simp [TemplateState.parseTrueWhole]

@[simp] theorem all_parseEcParams (st : TemplateState α) :
    (st.parseEcParams a stack).All Access.Fine ↔ curveFits stack a := by
  unfold TemplateState.parseEcParams curveFits
  rw [all_bind_iff, all_compare, result_compare, ← CkAttribute.bytes, and_iff_right (Nat.le_refl _)]
  cases hbytes : a.bytes with
  | none => simp
  | some v =>
    simp only [Option.some.injEq, forall_eq', ite_not]
    split_ifs with hv
    · simp [hv, hbytes]
    · simp [Ne.symm hv]

theorem all_parseCertificateAttribute (st : TemplateState CertificateValue) (a : CkAttribute) :
    (parseCertificateAttribute st a).All Access.Fine ↔ certificateFits a := by
  cases htype : a.type <;> simp [parseCertificateAttribute, certificateFits, htype]

theorem all_parseEcPrivateKeyAttribute (st : TemplateState (PkContext ρ ε)) (a : CkAttribute) :
    (parseEcPrivateKeyAttribute mbed stack st a).All Access.Fine ↔ ecPrivateKeyFits stack a := by
  cases htype : a.type
  case ckaValue =>
    simp only [parseEcPrivateKeyAttribute, ecPrivateKeyFits, htype, all_bind_iff, all_hand]
    refine iff_of_true ⟨by omega, fun v _ => ?_⟩ trivial
    cases st.ctx <;> simp
  all_goals simp [parseEcPrivateKeyAttribute, ecPrivateKeyFits, htype]

theorem all_parseRsaPrivateKeyAttribute (st : TemplateState (RsaVars ρ)) (a : CkAttribute) :
    (parseRsaPrivateKeyAttribute mbed st a).All Access.Fine ↔ rsaPrivateKeyFits a := by
  cases htype : a.type <;>
    simp [parseRsaPrivateKeyAttribute, rsaPrivateKeyFits, htype, rsaField]

/-- The length without the two bytes of ASN.1 stays in the value when there are two. -/
theorem point_length_iff (n : Nat) : 2 + (BitVec.ofNat 32 n - 2).toNat ≤ n ↔ 2 ≤ n := by
  have htwo : (2 : BitVec 32).toNat = 2 := rfl
  rw [BitVec.toNat_sub, BitVec.toNat_ofNat, htwo]
  omega

theorem all_parseEcPublicKeyAttribute (st : TemplateState (EcVars ρ ε)) (a : CkAttribute) :
    (parseEcPublicKeyAttribute mbed stack st a).All Access.Fine ↔ ecPublicKeyFits stack a := by
  cases htype : a.type
  case ckaEcPoint =>
    simp only [parseEcPublicKeyAttribute, ecPublicKeyFits, htype, all_bind_iff, all_hand,
      point_length_iff]
    refine and_iff_left fun v _ => ?_
    cases st.ctx.pk <;> simp
  all_goals simp [parseEcPublicKeyAttribute, ecPublicKeyFits, htype]

theorem all_parsePrivateTemplateAttribute (st : TemplateCheck) (a : CkAttribute) :
    (parsePrivateTemplateAttribute st a).All Access.Fine ↔ privateTemplateFits a := by
  cases htype : a.type <;>
    simp [parsePrivateTemplateAttribute, privateTemplateFits, htype, TemplateCheck.parseTrue,
      TemplateCheck.parseKeyType]

theorem TemplateCheck.all_parseEcParams (st : TemplateCheck) :
    (st.parseEcParams a).All Access.Fine ↔ pkcs11DerEncodedOidP256.length ≤ a.ulValueLen ∧
      (a.read pkcs11DerEncodedOidP256.length = some pkcs11DerEncodedOidP256 →
        a.bytes = some pkcs11DerEncodedOidP256) := by
  unfold TemplateCheck.parseEcParams
  rw [all_bind_iff, all_compare, result_compare]
  apply and_congr_right
  intro _
  cases a.read pkcs11DerEncodedOidP256.length with
  | none => simp
  | some v =>
    simp only [Option.some.injEq, forall_eq', ite_not]
    split_ifs with hv
    · simp [hv]
    · simp [hv]

theorem all_parsePublicTemplateAttribute (st : TemplateCheck) (a : CkAttribute) :
    (parsePublicTemplateAttribute st a).All Access.Fine ↔ publicTemplateFits a := by
  cases htype : a.type <;>
    simp [parsePublicTemplateAttribute, publicTemplateFits, htype, TemplateCheck.parseTrue,
      TemplateCheck.parseKeyType, TemplateCheck.all_parseEcParams]

/-! ## The loops -/

namespace CkAttribute.Exact

theorem read (h : a.Exact) (n : Nat) : ∃ v, a.read n = some v := by
  obtain ⟨v, hv, -⟩ := h
  exact ⟨_, by rw [CkAttribute.read, hv, Option.map_some]⟩

theorem readBool (h : a.Exact) : ∃ b, a.readBool = some b := by
  obtain ⟨v, hv⟩ := h.read 1
  exact ⟨_, by rw [CkAttribute.readBool, hv, Option.map_some]⟩

theorem readUlong (h : a.Exact) : ∃ n, a.readUlong = some n := by
  obtain ⟨v, hv⟩ := h.read 4
  exact ⟨_, by rw [CkAttribute.readUlong, hv, Option.map_some]⟩

/-- `CKA_SIGN` and `CKA_VERIFY` of at most one byte go into `xBool`. -/
theorem checkTrueWhole (h : a.Exact) (st : TemplateState α) (xBool : UInt8) (e : CkRv)
    (hlen : a.ulValueLen ≤ 1) : ∃ b rv, st.checkTrueWhole a xBool e =
      some (b, { st with xResult := rv }) := by
  obtain ⟨v, hv, -⟩ := h
  unfold TemplateState.checkTrueWhole
  simp only [hv, if_neg (Nat.not_lt.2 hlen)]
  split_ifs <;> exact ⟨_, _, rfl⟩

end CkAttribute.Exact

theorem CkAttribute.input_some {v : List UInt8} (hv : a.pValue = some v) : a.input = some (memOf v) := by
  rw [CkAttribute.input, hv]

theorem readField_some {v : List UInt8} (hv : a.pValue = some v) (f : RsaField) (rsa : ρ) :
    readField mbed f a rsa = some (mbed.rsaRead f (memOf v) a.ulValueLen rsa) := by
  rw [readField, if_neg (fun h => Option.some_ne_none v (hv.symm.trans h.2)), CkAttribute.input_some hv,
    Option.map_some]

variable {template : List CkAttribute}

theorem all_parseCertificateLoop (hexact : ∀ a ∈ template, a.Exact)
    (st : TemplateState CertificateValue) :
    (template.foldlM parseCertificateAttribute st).All Access.Fine ↔
      ∀ a ∈ template, certificateFits a := by
  refine all_foldlM_total (fun a _ st => all_parseCertificateAttribute st a)
    (fun a ha st _ => ?_) st
  obtain ⟨b, hb⟩ := (hexact a ha).readBool
  obtain ⟨n, hn⟩ := (hexact a ha).readUlong
  rw [result_parseCertificateAttribute]
  cases htype : a.type <;> simp [certificateAttribute, htype, TemplateState.checkTrue, hb, hn]

theorem all_parsePrivateLoop (hexact : ∀ a ∈ template, a.Exact) (st : TemplateCheck) :
    (template.foldlM parsePrivateTemplateAttribute st).All Access.Fine ↔
      ∀ a ∈ template, privateTemplateFits a := by
  refine all_foldlM_total (fun a _ st => all_parsePrivateTemplateAttribute st a)
    (fun a ha st _ => ?_) st
  obtain ⟨b, hb⟩ := (hexact a ha).readBool
  obtain ⟨n, hn⟩ := (hexact a ha).readUlong
  rw [result_parsePrivateTemplateAttribute]
  cases htype : a.type <;>
    simp [privateTemplateAttribute, htype, TemplateCheck.checkTrue, TemplateCheck.checkKeyType, hb, hn]

theorem all_parsePublicLoop (hexact : ∀ a ∈ template, a.Exact) (st : TemplateCheck) :
    (template.foldlM parsePublicTemplateAttribute st).All Access.Fine ↔
      ∀ a ∈ template, publicTemplateFits a := by
  refine all_foldlM_total (fun a _ st => all_parsePublicTemplateAttribute st a)
    (fun a ha st _ => ?_) st
  obtain ⟨b, hb⟩ := (hexact a ha).readBool
  obtain ⟨n, hn⟩ := (hexact a ha).readUlong
  obtain ⟨v, hv⟩ := (hexact a ha).read pkcs11DerEncodedOidP256.length
  rw [result_parsePublicTemplateAttribute]
  cases htype : a.type <;>
    simp [publicTemplateAttribute, htype, TemplateCheck.checkTrue, TemplateCheck.checkKeyType,
      TemplateCheck.checkEcParams, hb, hn, hv]

/-- The context is an EC key pair. -/
def PkContext.isEc : PkContext ρ ε → Bool
  | .ec _ => true
  | _ => false

/-- The loop over an EC key goes on past an attribute: what goes into the context needs one. -/
def contextGoes (filled : AttributeType) (context : Bool) (a : CkAttribute) : Option Bool :=
  if a.type = filled ∧ context = false then none else some context

theorem all_parseEcPrivateKeyLoop (hexact : ∀ a ∈ template, a.Exact)
    (st : TemplateState (PkContext ρ ε)) :
    (template.foldlM (parseEcPrivateKeyAttribute mbed stack) st).All Access.Fine ↔
      ∀ a, Reaches (contextGoes .ckaValue) st.ctx.isEc template a → ecPrivateKeyFits stack a := by
  refine all_foldlM_iff (contextGoes .ckaValue)
    (fun st : TemplateState (PkContext ρ ε) => st.ctx.isEc)
    (fun a _ st => all_parseEcPrivateKeyAttribute st a) (fun a ha st _ => ?_) st
  obtain ⟨b, hb⟩ := (hexact a ha).readBool
  obtain ⟨v, hv, -⟩ := hexact a ha
  obtain ⟨w, hw⟩ := (hexact a ha).read a.ulValueLen
  rw [result_parseEcPrivateKeyAttribute]
  cases htype : a.type
  case ckaValue =>
    cases hctx : st.ctx <;>
      simp [ecPrivateKeyAttribute, contextGoes, htype, CkAttribute.input_some hv, hctx, PkContext.isEc, apply_ite]
  all_goals
    simp [ecPrivateKeyAttribute, contextGoes, htype, TemplateState.checkTrue, TemplateState.ecParams,
      CkAttribute.bytes, TemplateState.label, hb, hw, apply_ite]

theorem all_parseEcPublicKeyLoop (hexact : ∀ a ∈ template, a.Exact)
    (st : TemplateState (EcVars ρ ε)) :
    (template.foldlM (parseEcPublicKeyAttribute mbed stack) st).All Access.Fine ↔
      ∀ a, Reaches (contextGoes .ckaEcPoint) st.ctx.pk.isEc template a → ecPublicKeyFits stack a := by
  refine all_foldlM_iff (contextGoes .ckaEcPoint)
    (fun st : TemplateState (EcVars ρ ε) => st.ctx.pk.isEc)
    (fun a _ st => all_parseEcPublicKeyAttribute st a) (fun a ha st hfits => ?_) st
  obtain ⟨b, hb⟩ := (hexact a ha).readBool
  obtain ⟨v, hv, -⟩ := hexact a ha
  obtain ⟨w, hw⟩ := (hexact a ha).read a.ulValueLen
  rw [result_parseEcPublicKeyAttribute]
  cases htype : a.type
  case ckaEcPoint =>
    cases hctx : st.ctx.pk <;>
      simp [ecPublicKeyAttribute, contextGoes, htype, hv, hctx, PkContext.isEc, apply_ite]
  case ckaVerify =>
    simp only [ecPublicKeyFits, htype] at hfits
    obtain ⟨x, rv, hx⟩ := (hexact a ha).checkTrueWhole st st.ctx.xBool .attributeValueInvalid hfits
    simp [ecPublicKeyAttribute, contextGoes, htype, hx]
  all_goals
    simp [ecPublicKeyAttribute, contextGoes, htype, TemplateState.ecParams,
      CkAttribute.bytes, TemplateState.label, hb, hw, apply_ite]

/-- The loop over an RSA key goes on past an attribute: mbedTLS takes its field. -/
def fieldGoes (mbed : Mbed ρ ε κ) (rsa : ρ) (a : CkAttribute) : Option ρ :=
  match (rsaField a.type).bind fun f => readField mbed f a rsa with
  | some (lMbedReturn, rsa) => if lMbedReturn = 0 then some rsa else none
  | none => some rsa

theorem rsaPrivateKeyAttribute_goes (mbed : Mbed ρ ε κ) (st : TemplateState (RsaVars ρ))
    (hexact : a.Exact) (hfits : rsaPrivateKeyFits a) :
    ∃ r st', rsaPrivateKeyAttribute mbed st a = some (r, st') ∧
      fieldGoes mbed st.ctx.rsa a = if r = 0 then some st'.ctx.rsa else none := by
  obtain ⟨b, hb⟩ := hexact.readBool
  obtain ⟨v, hv⟩ : ∃ v, a.pValue = some v := hexact.imp fun v hv => hv.1
  cases htype : a.type
  case ckaSign =>
    simp only [rsaPrivateKeyFits, htype] at hfits
    obtain ⟨x, rv, hx⟩ := hexact.checkTrueWhole st st.ctx.xBool .templateInconsistent hfits
    simp [rsaPrivateKeyAttribute, fieldGoes, rsaField, htype, hx]
  all_goals
    refine ⟨_, _, by
      simp only [rsaPrivateKeyAttribute, rsaField, htype, hb, readField_some hv, Option.map_some]; rfl, ?_⟩
    simp [fieldGoes, rsaField, htype, TemplateState.label, readField_some hv, apply_ite]

theorem all_parseRsaPrivateKey (hexact : ∀ a ∈ template, a.Exact) (st : TemplateState (RsaVars ρ)) :
    (parseRsaPrivateKey mbed template st).All Access.Fine ↔
      ∀ a, Reaches (fieldGoes mbed) st.ctx.rsa template a → rsaPrivateKeyFits a := by
  induction template generalizing st with
  | nil => exact iff_of_true (all_pure st) fun a ha => absurd ha not_reaches_nil
  | cons a as ih =>
    have ih := ih fun b hb => hexact b (List.mem_cons_of_mem a hb)
    rw [parseRsaPrivateKey, all_bind_iff, all_parseRsaPrivateKeyAttribute, forall_reaches_cons,
      result_parseRsaPrivateKeyAttribute]
    apply and_congr_right
    intro hfits
    obtain ⟨r, st', hstep, hgoes⟩ :=
      rsaPrivateKeyAttribute_goes mbed st (hexact a List.mem_cons_self) hfits
    rw [hstep, hgoes]
    simp only [Option.some.injEq, forall_eq', ne_eq, ite_not]
    split_ifs with hr
    · simp [ih st']
    · simp

/-! ## The private template of a key pair -/

/-- What the check of the private template asks of an attribute. -/
def privateTakes (a : CkAttribute) : Prop :=
  match a.type with
  | .ckaLabel => True
  | .ckaToken => a.readBool = some ckTrue
  | .ckaKeyType => a.readUlong = some ckkEc
  | .ckaPrivate => a.readBool = some ckTrue
  | .ckaSign => a.readBool = some ckTrue
  | _ => False

/-- The template has an attribute of the type. -/
def hasType (type : AttributeType) (template : List CkAttribute) : Bool :=
  template.any (·.type = type)

/-- A private template that is accepted: the public one is looked at too. -/
structure PrivateTemplateTaken (template : List CkAttribute) : Prop where
  takes : ∀ a ∈ template, privateTakes a
  label : hasType .ckaLabel template = true
  isPrivate : hasType .ckaPrivate template = true
  sign : hasType .ckaSign template = true

/-- `xAttributeMap` of a private template. -/
def privateMap (label isPrivate sign : Bool) : BitVec 32 :=
  (if label then labelInTemplate else 0) ||| (if isPrivate then privateInTemplate else 0) |||
    (if sign then signInTemplate else 0)

theorem privateMap_required (l p s : Bool) :
    privateMap l p s &&& (labelInTemplate ||| privateInTemplate ||| signInTemplate) =
      labelInTemplate ||| privateInTemplate ||| signInTemplate ↔ l = true ∧ p = true ∧ s = true := by
  cases l <;> cases p <;> cases s <;> decide

/-- One attribute of the private template. -/
structure PrivateStep (st st' : TemplateCheck) (as : List CkAttribute) : Prop where
  result : st'.xResult = .ok ↔ st.xResult = .ok ∧ ∀ a ∈ as, privateTakes a
  map : ∀ l p s, st.xAttributeMap = privateMap l p s → st'.xAttributeMap =
    privateMap (l || hasType .ckaLabel as) (p || hasType .ckaPrivate as) (s || hasType .ckaSign as)
  label : st'.pxLabel.isSome = (st.pxLabel.isSome || hasType .ckaLabel as)

theorem privateStep_one (st : TemplateCheck) (hexact : a.Exact) :
    ∃ st', privateTemplateAttribute st a = some st' ∧ PrivateStep st st' [a] := by
  obtain ⟨b, hb⟩ := hexact.readBool
  obtain ⟨n, hn⟩ := hexact.readUlong
  have hmap : ∀ l p s, privateMap l p s ||| labelInTemplate = privateMap true p s ∧
      privateMap l p s ||| privateInTemplate = privateMap l true s ∧
      privateMap l p s ||| signInTemplate = privateMap l p true := by
    intro l p s
    cases l <;> cases p <;> cases s <;> decide
  cases htype : a.type
  all_goals
    refine ⟨_, by simp only [privateTemplateAttribute, htype, TemplateCheck.checkTrue,
      TemplateCheck.checkKeyType, hb, hn, Option.map_some]; rfl, ?_, ?_, ?_⟩
    · by_cases hb' : b = ckTrue <;> by_cases hn' : n = ckkEc <;>
        simp [TemplateCheck.label, privateTakes, htype, hb, hn, hb', hn']
    · intro l p s h
      simp [TemplateCheck.label, hasType, htype, h, hmap, apply_ite]
    · simp [TemplateCheck.label, hasType, htype, apply_ite]

theorem privateStep_run (hexact : ∀ a ∈ template, a.Exact) (st : TemplateCheck) :
    ∃ st', template.foldlM privateTemplateAttribute st = some st' ∧ PrivateStep st st' template := by
  induction template generalizing st with
  | nil => exact ⟨st, rfl, by simp, fun l p s h => by simp [hasType, h], by simp [hasType]⟩
  | cons a as ih =>
    obtain ⟨st₁, hstep, hone⟩ := privateStep_one st (hexact a List.mem_cons_self)
    obtain ⟨st₂, hrun, hrest⟩ := ih (fun b hb => hexact b (List.mem_cons_of_mem a hb)) st₁
    refine ⟨st₂, ?_, ?_, ?_, ?_⟩
    · rw [List.foldlM_cons, hstep]
      exact hrun
    · simp [hrest.result, hone.result, and_assoc]
    · intro l p s h
      rw [hrest.map _ _ _ (hone.map l p s h)]
      simp [hasType, Bool.or_assoc]
    · simp [hrest.label, hone.label, hasType, Bool.or_assoc]

/-- **When the private template is accepted.** -/
theorem privateTemplate_spec (hexact : ∀ a ∈ template, a.Exact) :
    ∃ rv label, prvCheckGenerateKeyPairPrivateTemplate template = some (rv, label) ∧
      (rv = .ok ↔ PrivateTemplateTaken template) ∧ (rv = .ok → label.isSome) := by
  obtain ⟨st, hrun, hst⟩ := privateStep_run hexact ⟨none, .ok, 0⟩
  have hmap := hst.map false false false rfl
  have hreq := privateMap_required (hasType .ckaLabel template) (hasType .ckaPrivate template)
    (hasType .ckaSign template)
  simp only [Bool.false_or] at hmap
  rw [← hmap] at hreq
  refine ⟨_, _, by rw [prvCheckGenerateKeyPairPrivateTemplate, checkTemplate, hrun]; rfl, ?_, ?_⟩
  · split_ifs with hmiss
    · simp only [false_iff]
      exact fun htaken => hmiss (hreq.2 ⟨htaken.label, htaken.isPrivate, htaken.sign⟩)
    · obtain ⟨hlabel, hprivate, hsign⟩ := hreq.1 (Decidable.not_not.1 hmiss)
      rw [hst.result, and_iff_right rfl]
      exact ⟨fun h => ⟨h, hlabel, hprivate, hsign⟩, fun htaken => htaken.takes⟩
  · intro hok
    have hhas : ¬st.xAttributeMap &&& _ ≠ _ := fun hmiss => by rw [if_pos hmiss] at hok; cases hok
    rw [hst.label, (hreq.1 (Decidable.not_not.1 hhas)).1, Bool.or_true]

/-! ## The calls -/

/-- The first attribute of a type is read as a `CK_ULONG`, and `next` asks the rest. -/
def FirstFits (type : AttributeType) (template : List CkAttribute) (next : Nat → Prop) : Prop :=
  ∀ a, template.find? (·.type = type) = some a → 4 ≤ a.ulValueLen ∧
    ∀ n, a.readUlong = some n → next n

/-- The attributes that `prvCreatePrivateKey` comes to fit: with an RSA key up to the first field that
mbedTLS refuses, with an EC key without a context up to its value. -/
def privateKeyFits (mbed : Mbed ρ ε κ) (template : List CkAttribute) (a : CreateAns) : Prop :=
  FirstFits .ckaKeyType template fun xKeyType =>
    (xKeyType = ckkRsa → a.mallocContext = true →
      ∀ b, Reaches (fieldGoes mbed) mbed.rsaInit template b → rsaPrivateKeyFits b) ∧
    (xKeyType = ckkEc → ∀ b, Reaches (contextGoes .ckaValue) a.mallocContext template b →
      ecPrivateKeyFits a.stack b)

/-- The attributes that `prvCreatePublicKey` comes to fit. -/
def publicKeyFits (template : List CkAttribute) (a : CreateAns) : Prop :=
  FirstFits .ckaKeyType template fun xKeyType => xKeyType = ckkEc →
    ∀ b, Reaches (contextGoes .ckaEcPoint) a.mallocContext template b → ecPublicKeyFits a.stack b

def createFits (mbed : Mbed ρ ε κ) (template : List CkAttribute) (a : CreateAns) : Prop :=
  FirstFits .ckaClass template fun xClass =>
    (xClass = ckoCertificate → ∀ b ∈ template, certificateFits b) ∧
    (xClass = ckoPrivateKey → privateKeyFits mbed template a) ∧
    (xClass = ckoPublicKey → publicKeyFits template a)

/-- `C_GenerateKeyPair` gets to its templates. -/
structure GetsTemplates (s : State) (args : KeyPairArgs) (malloc : Bool)
    (pub prv : List CkAttribute) : Prop where
  malloc : malloc = true
  session : ∃ h, sessionCheck s args.xSession = .ok h
  pub : args.pxPublicKeyTemplate = some pub
  prv : args.pxPrivateKeyTemplate = some prv
  hPub : args.pxPublicKey ≠ none
  hPrv : args.pxPrivateKey ≠ none
  mechanism : args.pxMechanism = some ckmEcKeyPairGen

/-- Every attribute that a call comes to is one that its parser is right about. -/
def TemplateCall.Fits (mbed : Mbed ρ ε κ) (s : State) : TemplateCall → Prop
  | .createObject xSession (some template) (some _) a =>
    ∀ h, sessionCheck s xSession = .ok h → createFits mbed template a
  | .createObject _ _ _ _ => True
  | .generateKeyPair args malloc => ∀ pub prv, GetsTemplates s args malloc pub prv →
    (∀ a ∈ prv, privateTemplateFits a) ∧
      (PrivateTemplateTaken prv → ∀ a ∈ pub, publicTemplateFits a)

/-- The attributes that a call is given. -/
def TemplateCall.attributes : TemplateCall → List CkAttribute
  | .createObject _ pxTemplate _ _ => pxTemplate.getD []
  | .generateKeyPair args _ => args.pxPrivateKeyTemplate.getD [] ++ args.pxPublicKeyTemplate.getD []

theorem all_copyUlong_bind {type : AttributeType} {next : Nat → Prop} {f : Nat → Parse α}
    (hfind : template.find? (fun b => b.type = type) = some a)
    (hnext : ∀ n, (f n).All Access.Fine ↔ next n) :
    (a.copyUlong >>= f).All Access.Fine ↔ FirstFits type template next := by
  simp only [FirstFits, hfind, all_bind_iff, all_copyUlong, result_copyUlong, hnext,
    Option.some.injEq, forall_eq']

theorem firstFits_none {type : AttributeType} {next : Nat → Prop}
    (hfind : template.find? (fun b => b.type = type) = none) : FirstFits type template next := by
  intro a ha
  cases hfind.symm.trans ha

theorem all_parseKeyType_bind {next : Nat → Prop} {f : Option Nat → Parse α}
    (hnext : ∀ n, (f (some n)).All Access.Fine ↔ next n) (hnone : (f none).All Access.Fine) :
    (parseKeyType template >>= f).All Access.Fine ↔ FirstFits .ckaKeyType template next := by
  unfold parseKeyType
  cases hfind : template.find? (·.type = .ckaKeyType) with
  | none =>
    refine iff_of_true ?_ (firstFits_none hfind)
    simp [all_bind_iff, hnone]
  | some c =>
    rw [← all_copyUlong_bind hfind hnext]
    simp [all_bind_iff]

variable {ans : CreateAns}

theorem all_parseCertificate (hexact : ∀ a ∈ template, a.Exact) :
    (parseCertificate (ρ := ρ) (ε := ε) template).All Access.Fine ↔
      ∀ a ∈ template, certificateFits a := by
  unfold parseCertificate
  rw [all_map_iff]
  exact all_parseCertificateLoop hexact _

theorem all_parsePrivateKey (hexact : ∀ a ∈ template, a.Exact) :
    (parsePrivateKey mbed template ans).All Access.Fine ↔ privateKeyFits mbed template ans := by
  refine all_parseKeyType_bind (fun xKeyType => ?_) ?_
  · have hne : ckkRsa ≠ ckkEc := by decide
    simp only [Option.some.injEq]
    by_cases hrsa : xKeyType = ckkRsa
    · cases hmalloc : ans.mallocContext <;> simp [hrsa, hne, all_parseRsaPrivateKey hexact]
    · by_cases hec : xKeyType = ckkEc
      · cases hmalloc : ans.mallocContext <;>
          simp [hec, hne.symm, all_parseEcPrivateKeyLoop hexact, PkContext.isEc]
      · simp [hrsa, hec]
  · simp

theorem all_parsePublicKey (hexact : ∀ a ∈ template, a.Exact) :
    (parsePublicKey mbed template ans).All Access.Fine ↔ publicKeyFits template ans := by
  refine all_parseKeyType_bind (fun xKeyType => ?_) ?_
  · have hne : ckkRsa ≠ ckkEc := by decide
    simp only [Option.some.injEq]
    by_cases hrsa : xKeyType = ckkRsa
    · simp [hrsa, hne]
    · by_cases hec : xKeyType = ckkEc
      · cases hmalloc : ans.mallocContext <;>
          simp [hec, hne.symm, all_parseEcPublicKeyLoop hexact, PkContext.isEc]
      · simp [hrsa, hec]
  · simp

theorem all_parseCreate (hexact : ∀ a ∈ template, a.Exact) :
    (parseCreate mbed template ans).All Access.Fine ↔ createFits mbed template ans := by
  unfold parseCreate
  cases hfind : template.find? (·.type = .ckaClass) with
  | none => exact iff_of_true (all_pure _) (firstFits_none hfind)
  | some c =>
    refine all_copyUlong_bind hfind fun xClass => ?_
    split_ifs with hcert hprv hpub
    · simp [hcert, all_parseCertificate hexact, ckoCertificate, ckoPrivateKey, ckoPublicKey]
    · simp [hprv, all_parsePrivateKey hexact, ckoCertificate, ckoPrivateKey, ckoPublicKey]
    · simp [hpub, all_parsePublicKey hexact, ckoCertificate, ckoPrivateKey, ckoPublicKey]
    · simp [hcert, hprv, hpub]

theorem all_parseTemplates {pub prv : List CkAttribute} {hPub hPrv : ObjectHandle}
    (hexactPrv : ∀ a ∈ prv, a.Exact) (hexactPub : ∀ a ∈ pub, a.Exact) :
    (parseTemplates pub prv hPub hPrv).All Access.Fine ↔ (∀ a ∈ prv, privateTemplateFits a) ∧
      (PrivateTemplateTaken prv → ∀ a ∈ pub, publicTemplateFits a) := by
  obtain ⟨rv, label, hcheck, htaken, hlabel⟩ := privateTemplate_spec hexactPrv
  unfold parseTemplates
  rw [all_bind_iff, result_parsePrivateTemplate, hcheck]
  simp only [Option.some.injEq, forall_eq']
  refine and_congr ?_ ?_
  · unfold parsePrivateTemplate parseTemplate
    rw [all_map_iff]
    exact all_parsePrivateLoop hexactPrv _
  · rw [← htaken]
    by_cases hok : rv = .ok
    · obtain ⟨l, rfl⟩ := Option.isSome_iff_exists.1 (hlabel hok)
      subst hok
      simp only [true_implies]
      rw [all_bind_iff, and_iff_left]
      · unfold parsePublicTemplate parseTemplate
        rw [all_map_iff]
        exact all_parsePublicLoop hexactPub _
      · rintro ⟨rv, _ | label⟩ _ <;> cases rv <;> simp
    · cases rv <;> cases label <;> simp at hok ⊢

theorem all_parseKeyPair (s : State) (args : KeyPairArgs) (malloc : Bool)
    (hexactPrv : ∀ a ∈ args.pxPrivateKeyTemplate.getD [], a.Exact)
    (hexactPub : ∀ a ∈ args.pxPublicKeyTemplate.getD [], a.Exact) :
    (parseKeyPair s args malloc).All Access.Fine ↔
      ∀ pub prv, GetsTemplates s args malloc pub prv → (∀ a ∈ prv, privateTemplateFits a) ∧
        (PrivateTemplateTaken prv → ∀ a ∈ pub, publicTemplateFits a) := by
  by_cases hgets : ∃ pub prv, GetsTemplates s args malloc pub prv
  · obtain ⟨pub, prv, hgets⟩ := hgets
    obtain ⟨xSession, pxMechanism, pxPub, pxPrv, hPub, hPrv⟩ := args
    have hall (P : List CkAttribute → List CkAttribute → Prop) : (∀ pub' prv',
        GetsTemplates s ⟨xSession, pxMechanism, pxPub, pxPrv, hPub, hPrv⟩ malloc pub' prv' →
          P pub' prv') ↔ P pub prv := by
      refine ⟨fun h => h pub prv hgets, fun h pub' prv' hgets' => ?_⟩
      obtain rfl := Option.some.inj (hgets.pub.symm.trans hgets'.pub)
      obtain rfl := Option.some.inj (hgets.prv.symm.trans hgets'.prv)
      exact h
    rw [hall fun pub prv => _]
    obtain ⟨rfl, ⟨h, hs⟩, rfl, rfl, hPub, hPrv, rfl⟩ := hgets
    obtain ⟨oPub, rfl⟩ := Option.ne_none_iff_exists'.1 hPub
    obtain ⟨oPrv, rfl⟩ := Option.ne_none_iff_exists'.1 hPrv
    have hparse : parseKeyPair s ⟨xSession, some ckmEcKeyPairGen, some pub, some prv, some oPub,
        some oPrv⟩ true = parseTemplates pub prv oPub oPrv := by
      simp [parseKeyPair, hs]
    rw [hparse]
    exact all_parseTemplates hexactPrv hexactPub
  · refine iff_of_true ?_ fun pub prv h => absurd ⟨pub, prv, h⟩ hgets
    obtain ⟨xSession, pxMechanism, pxPub, pxPrv, hPub, hPrv⟩ := args
    unfold parseKeyPair
    split_ifs with hmalloc
    · cases hs : sessionCheck s xSession with
      | error e => exact all_pure _
      | ok h =>
        cases pxPub <;> cases pxPrv <;> cases hPub <;> cases hPrv <;> cases pxMechanism <;>
          try exact all_pure _
        simp only
        split_ifs with hmechanism
        · exact all_pure _
        · refine absurd ⟨_, _, hmalloc, ⟨h, hs⟩, rfl, rfl, nofun, nofun, ?_⟩ hgets
          rw [Decidable.not_not.1 hmechanism]
    · exact all_pure _

/-- What is asked of a call with templates: all that it does with the attributes is right. -/
def TemplateLaw (mbed : Mbed ρ ε κ) (s : State) (call : TemplateCall) : Prop :=
  ∀ x ∈ call.accesses mbed s, Access.Fine x

/-- **When the parsers keep to the values they are given**, and take a curve for P-256 only if it is. -/
theorem template_law_iff (mbed : Mbed ρ ε κ) (s : State) (call : TemplateCall)
    (hexact : ∀ a ∈ call.attributes, a.Exact) : TemplateLaw mbed s call ↔ call.Fits mbed s := by
  cases call with
  | createObject xSession pxTemplate pxObject a =>
    cases pxTemplate with
    | none =>
      exact iff_of_true (fun _ hm => absurd hm List.not_mem_nil) trivial
    | some template =>
      cases pxObject with
      | none =>
        exact iff_of_true (fun _ hm => absurd hm List.not_mem_nil) trivial
      | some h =>
        simp only [TemplateLaw, TemplateCall.accesses, TemplateCall.Fits]
        cases hs : sessionCheck s xSession with
        | error e =>
          refine iff_of_true (fun _ hm => absurd hm List.not_mem_nil) ?_
          intro _ h
          cases h
        | ok h =>
          simp only [Except.ok.injEq, forall_eq']
          exact all_parseCreate hexact
  | generateKeyPair args malloc =>
    apply all_parseKeyPair s args malloc
    · exact fun a ha => hexact a (List.mem_append_left _ ha)
    · exact fun a ha => hexact a (List.mem_append_right _ ha)

/-- `C_CreateObject` of a template, in an initialised module. -/
def createCall (template : List CkAttribute) : TemplateCall :=
  .createObject (some 0) (some template) (some 0)
    ⟨true, true, [], 0, ⟨⟨none, 0x40000000, firstVolatile⟩, none⟩, true⟩

def createState : State := { freshDevice.p11 with xIsInitialized := true }

/-- A certificate that is only a class and a token. -/
theorem template_law_certificate : TemplateLaw unitMbed createState
    (createCall [⟨.ckaClass, some [1, 0, 0, 0], 4⟩, ⟨.ckaToken, some [ckTrue], 1⟩]) := by
  refine (template_law_iff unitMbed createState _ ?_).2 ?_
  · intro a ha
    obtain rfl | rfl : a = _ ∨ a = _ := by simpa [createCall, TemplateCall.attributes] using ha
    · exact ⟨_, rfl, rfl⟩
    · exact ⟨_, rfl, rfl⟩
  · intro h _ c hc
    obtain rfl := Option.some.inj hc
    refine ⟨Nat.le_refl 4, fun n hn => ?_⟩
    obtain rfl : 1 = n := Option.some.inj hn
    simp [certificateFits, ckoCertificate, ckoPrivateKey, ckoPublicKey]

/-- **Four templates of `C_CreateObject`**: a token of no byte is read, two bytes are copied into
`xBool`, a point of one byte goes to mbedTLS with a length of `2 ^ 32 - 1`, and a value without a byte is
taken for P-256. -/
theorem template_law_breaks :
    ¬TemplateLaw unitMbed createState
        (createCall [⟨.ckaClass, some [1, 0, 0, 0], 4⟩, ⟨.ckaToken, some [], 0⟩]) ∧
      ¬TemplateLaw unitMbed createState
        (createCall [⟨.ckaClass, some [3, 0, 0, 0], 4⟩, ⟨.ckaKeyType, some [0, 0, 0, 0], 4⟩,
          ⟨.ckaSign, some [1, 0], 2⟩]) ∧
      ¬TemplateLaw unitMbed createState
        (createCall [⟨.ckaClass, some [2, 0, 0, 0], 4⟩, ⟨.ckaKeyType, some [3, 0, 0, 0], 4⟩,
          ⟨.ckaEcPoint, some [4], 1⟩]) ∧
      ¬TemplateLaw unitMbed createState
        (createCall [⟨.ckaClass, some [2, 0, 0, 0], 4⟩, ⟨.ckaKeyType, some [3, 0, 0, 0], 4⟩,
          ⟨.ckaEcParams, some [], 0⟩]) := by
  refine ⟨fun h => ?_, fun h => ?_, fun h => ?_, fun h => ?_⟩
  · have hread := h (⟨.ckaToken, some [], 0⟩, .copied 1 1) (List.mem_of_getElem? (i := 1) rfl)
    exact absurd hread.1 (by decide)
  · have hwrite := h (⟨.ckaSign, some [1, 0], 2⟩, .copied 2 1) (List.mem_of_getElem? (i := 2) rfl)
    exact absurd hwrite.2 (by decide)
  · have hlen := h (⟨.ckaEcPoint, some [4], 1⟩, .handed 2 4294967295)
      (List.mem_of_getElem? (i := 2) rfl)
    exact absurd hlen (by simp [Access.Fine])
  · have hcurve := h (⟨.ckaEcParams, some [], 0⟩, .acceptedCurve)
      (List.mem_of_getElem? (i := 3) rfl)
    exact absurd (Option.some.inj hcurve) (by decide)

end Pkcs11
