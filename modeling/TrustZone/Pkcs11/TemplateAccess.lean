import TrustZone.Lib.Traced
import TrustZone.Pkcs11.GenerateKeyPair

/-!
# What the template parsers do with an attribute

The parsers of `CreateObject` and `GenerateKeyPair` again, with a record of what they do with the memory
of the attributes: `memcpy` into a local variable, `memcmp`, a reader of mbedTLS, and the curve that is
accepted.
-/

namespace Pkcs11

open Lib Psa Crypto

variable {κ ρ ε α : Type}

/-! ## Accesses -/

/-- What is done with an attribute: `n` bytes of the value are copied into `size` bytes, `n` bytes are
compared, a reader of mbedTLS gets `len` bytes at `pValue + off`, or its curve is accepted. -/
inductive Access
  | copied (n size : Nat)
  | compared (n : Nat)
  | handed (off len : Nat)
  | acceptedCurve

/-- A parser, with what it does with the attributes. -/
abbrev Parse := Traced (CkAttribute × Access)

namespace CkAttribute

/-- `memcpy( &x, pValue, n )`, where `x` has `size` bytes. -/
def copy (a : CkAttribute) (n size : Nat) : Parse (List UInt8) :=
  ⟨[(a, .copied n size)], if n ≤ size then a.read n else none⟩

/-- A `CK_BBOOL`. -/
def copyBool (a : CkAttribute) : Parse UInt8 := (memOf · 0) <$> a.copy 1 1

/-- A `CK_ULONG`. -/
def copyUlong (a : CkAttribute) : Parse Nat := leVal <$> a.copy 4 4

/-- `n` bytes, for a `memcmp`. -/
def compare (a : CkAttribute) (n : Nat) : Parse (List UInt8) := ⟨[(a, .compared n)], a.read n⟩

/-- `pValue + off` goes to a reader that is told `len`; `r` is what it gets or comes to. -/
def hand (a : CkAttribute) (off len : Nat) (r : Option α) : Parse α := ⟨[(a, .handed off len)], r⟩

/-- The curve of the attribute is accepted. -/
def acceptCurve (a : CkAttribute) : Parse Unit := ⟨[(a, .acceptedCurve)], some ()⟩

end CkAttribute

/-! ## `C_CreateObject` -/

namespace TemplateState

def parseTrue (st : TemplateState α) (a : CkAttribute) (e : CkRv) : Parse (TemplateState α) :=
  (fun xBool => if xBool ≠ ckTrue then { st with xResult := e } else st) <$> a.copyBool

def parseEcParams (st : TemplateState α) (a : CkAttribute) (stack : List UInt8) :
    Parse (TemplateState α) := do
  let v ← a.compare a.ulValueLen
  if slice (memOf (pkcs11DerEncodedOidP256 ++ stack)) 0 a.ulValueLen ≠ v then
    pure { st with xResult := .attributeValueInvalid }
  else
    (fun _ => st) <$> a.acceptCurve

def parseTrueWhole (st : TemplateState α) (a : CkAttribute) (xBool : UInt8) (e : CkRv) :
    Parse (UInt8 × TemplateState α) :=
  (fun v =>
    let xBool := if a.ulValueLen = 0 then xBool else memOf v 0
    (xBool, if xBool ≠ ckTrue then { st with xResult := e } else st)) <$> a.copy a.ulValueLen 1

end TemplateState

/-- One attribute of `prvCreateCertificate`. -/
def parseCertificateAttribute (st : TemplateState CertificateValue) (a : CkAttribute) :
    Parse (TemplateState CertificateValue) :=
  match a.type with
  | .ckaValue => pure { st with ctx := ⟨a.pValue, a.ulValueLen⟩ }
  | .ckaLabel => pure (st.label a (a.ulValueLen ≤ pkcs11configMaxLabelLength))
  | .ckaCertificateType =>
    (fun t => if t ≠ ckcX509 then { st with xResult := .attributeValueInvalid } else st) <$>
      a.copyUlong
  | .ckaToken => st.parseTrue a .attributeValueInvalid
  | .ckaClass => pure { st with pxClass := some a }
  | .ckaSubject => pure st
  | _ => pure { st with xResult := .templateInconsistent }

/-- One attribute of `prvCreateEcPrivateKey`. -/
def parseEcPrivateKeyAttribute (mbed : Mbed ρ ε κ) (stack : List UInt8)
    (st : TemplateState (PkContext ρ ε)) (a : CkAttribute) :
    Parse (TemplateState (PkContext ρ ε)) :=
  match a.type with
  | .ckaClass => pure { st with pxClass := some a }
  | .ckaKeyType => pure st
  | .ckaToken => st.parseTrue a .attributeValueInvalid
  | .ckaSign => st.parseTrue a .attributeValueInvalid
  | .ckaLabel => pure (st.label a (a.ulValueLen ≤ pkcs11configMaxLabelLength))
  | .ckaEcParams => st.parseEcParams a stack
  | .ckaValue => do
    let v ← a.hand 0 a.ulValueLen a.input
    match st.ctx with
    | .ec e =>
      let (lMbedReturn, e) := mbed.mpiReadBinary v a.ulValueLen e
      let st := { st with ctx := .ec e }
      pure (if lMbedReturn ≠ 0 then { st with xResult := .attributeValueInvalid } else st)
    | _ => .fail
  | _ => pure { st with xResult := .templateInconsistent }

/-- One attribute of `prvCreateRsaPrivateKey`, with `lMbedReturn`. -/
def parseRsaPrivateKeyAttribute (mbed : Mbed ρ ε κ) (st : TemplateState (RsaVars ρ))
    (a : CkAttribute) : Parse (Int × TemplateState (RsaVars ρ)) :=
  match a.type with
  | .ckaClass => pure (0, { st with pxClass := some a })
  | .ckaKeyType => pure (0, st)
  | .ckaToken =>
    (fun xBool =>
      let st := { st with ctx := { st.ctx with xBool := xBool } }
      (0, if xBool ≠ ckTrue then { st with xResult := .attributeValueInvalid } else st)) <$>
      a.copyBool
  | .ckaLabel => pure (0, st.label a (a.ulValueLen ≤ pkcs11configMaxLabelLength))
  | .ckaSign =>
    (fun (xBool, st) => (0, { st with ctx := { st.ctx with xBool := xBool } })) <$>
      st.parseTrueWhole a st.ctx.xBool .templateInconsistent
  | type =>
    match rsaField type with
    | some f =>
      (fun (lMbedReturn, rsa) => (lMbedReturn, { st with ctx := { st.ctx with rsa := rsa } })) <$>
        a.hand 0 a.ulValueLen (readField mbed f a st.ctx.rsa)
    | none => pure (0, { st with xResult := .templateInconsistent })

/-- The loop of `prvCreateRsaPrivateKey`. -/
def parseRsaPrivateKey (mbed : Mbed ρ ε κ) :
    List CkAttribute → TemplateState (RsaVars ρ) → Parse (TemplateState (RsaVars ρ))
  | [], st => pure st
  | a :: as, st => do
    let (lMbedReturn, st) ← parseRsaPrivateKeyAttribute mbed st a
    if lMbedReturn ≠ 0 then pure { st with xResult := .attributeValueInvalid }
    else parseRsaPrivateKey mbed as st

/-- One attribute of `prvCreateECPublicKey`. -/
def parseEcPublicKeyAttribute (mbed : Mbed ρ ε κ) (stack : List UInt8)
    (st : TemplateState (EcVars ρ ε)) (a : CkAttribute) : Parse (TemplateState (EcVars ρ ε)) :=
  match a.type with
  | .ckaClass => pure { st with pxClass := some a }
  | .ckaKeyType => pure st
  | .ckaToken =>
    (fun xBool =>
      let st := { st with ctx := { st.ctx with xBool := xBool } }
      if xBool ≠ ckTrue then { st with xResult := .attributeValueInvalid } else st) <$> a.copyBool
  | .ckaLabel => pure (st.label a (a.ulValueLen < pkcs11configMaxLabelLength))
  | .ckaVerify =>
    (fun (xBool, st) => { st with ctx := { st.ctx with xBool := xBool } }) <$>
      st.parseTrueWhole a st.ctx.xBool .attributeValueInvalid
  | .ckaEcParams => st.parseEcParams a stack
  | .ckaEcPoint => do
    let len := (BitVec.ofNat 32 a.ulValueLen - 2).toNat
    let v ← a.hand 2 len (a.pValue.map fun v => memOf (v.drop 2))
    match st.ctx.pk with
    | .ec e =>
      let (lMbedReturn, e) := mbed.ecpPointReadBinary v len e
      let st := { st with ctx := { st.ctx with pk := .ec e } }
      pure (if lMbedReturn ≠ 0 then { st with xResult := .attributeValueInvalid } else st)
    | _ => .fail
  | _ => pure { st with xResult := .attributeTypeInvalid }

/-- `prvCreateCertificate`, up to the saving. -/
def parseCertificate (template : List CkAttribute) : Parse (Prepared ρ ε) :=
  (fun st =>
    match st.ctx.pxCertificateValue, st.pxLabel with
    | some v, some label =>
      if st.xResult = .ok then
        let len := st.ctx.xCertificateLength
        ⟨.ok ⟨st.pxClass, some label, slice (memOf v) 0 len, len, none⟩, []⟩
      else ⟨.error st.xResult, []⟩
    | _, _ => ⟨.error .templateIncomplete, []⟩) <$>
    template.foldlM parseCertificateAttribute ⟨none, none, .ok, ⟨none, 0⟩⟩

/-- `prvGetKeyType`. -/
def parseKeyType (template : List CkAttribute) : Parse (Option Nat) :=
  match template.find? (·.type = .ckaKeyType) with
  | none => pure none
  | some a => some <$> a.copyUlong

/-- `prvCreatePrivateKey`, up to the saving. -/
def parsePrivateKey (mbed : Mbed ρ ε κ) (template : List CkAttribute) (a : CreateAns) :
    Parse (Prepared ρ ε) := do
  let xKeyType ← parseKeyType template
  if xKeyType = some ckkRsa then
    if a.mallocContext then
      (fun st =>
        let pk := .rsa st.ctx.rsa
        derPlan ⟨st.pxLabel, st.pxClass, st.xResult, pk⟩ [.malloc] a.mallocDer
          (writePrivateKey mbed pk)) <$>
        parseRsaPrivateKey mbed template ⟨none, none, .ok, ⟨mbed.rsaInit, a.xBool⟩⟩
    else pure ⟨.error .hostMemory, []⟩
  else if xKeyType = some ckkEc then
    let (pk, heap) :=
      if a.mallocContext then (.ec mbed.ecpKeypairInit, [.malloc]) else (.null, [])
    (fun st => derPlan st heap a.mallocDer (writePrivateKey mbed st.ctx)) <$>
      template.foldlM (parseEcPrivateKeyAttribute mbed a.stack) ⟨none, none, .ok, pk⟩
  else pure ⟨.error .mechanismInvalid, []⟩

/-- `prvCreatePublicKey`, up to the saving. -/
def parsePublicKey (mbed : Mbed ρ ε κ) (template : List CkAttribute) (a : CreateAns) :
    Parse (Prepared ρ ε) := do
  let xKeyType ← parseKeyType template
  if xKeyType = some ckkRsa then pure ⟨.error .attributeTypeInvalid, []⟩
  else if xKeyType = some ckkEc then
    let (pk, heap) :=
      if a.mallocContext then (.ec mbed.ecpKeypairInit, [.malloc]) else (.null, [])
    (fun st =>
      derPlan ⟨st.pxLabel, st.pxClass, st.xResult, st.ctx.pk⟩ heap a.mallocDer
        (writePublicKey mbed st.ctx.pk)) <$>
      template.foldlM (parseEcPublicKeyAttribute mbed a.stack) ⟨none, none, .ok, ⟨pk, a.xBool⟩⟩
  else pure ⟨.error .mechanismInvalid, []⟩

/-- `prvGetObjectClass`, and the import of the class. -/
def parseCreate (mbed : Mbed ρ ε κ) (template : List CkAttribute) (a : CreateAns) :
    Parse (Prepared ρ ε) :=
  match template.find? (·.type = .ckaClass) with
  | none => pure ⟨.error .templateIncomplete, []⟩
  | some c => do
    let xClass ← c.copyUlong
    if xClass = ckoCertificate then parseCertificate template
    else if xClass = ckoPrivateKey then parsePrivateKey mbed template a
    else if xClass = ckoPublicKey then parsePublicKey mbed template a
    else pure ⟨.error .attributeValueInvalid, []⟩

/-! ## `C_GenerateKeyPair` -/

namespace TemplateCheck

def parseTrue (st : TemplateCheck) (a : CkAttribute) (e : CkRv) (bit : BitVec 32) :
    Parse TemplateCheck :=
  (fun xBool =>
    { st with
      xResult := if xBool ≠ ckTrue then e else st.xResult
      xAttributeMap := st.xAttributeMap ||| bit }) <$> a.copyBool

def parseKeyType (st : TemplateCheck) (a : CkAttribute) : Parse TemplateCheck :=
  (fun xKeyType =>
    if xKeyType ≠ ckkEc then { st with xResult := .templateInconsistent } else st) <$> a.copyUlong

def parseEcParams (st : TemplateCheck) (a : CkAttribute) : Parse TemplateCheck := do
  let v ← a.compare pkcs11DerEncodedOidP256.length
  let st := { st with xAttributeMap := st.xAttributeMap ||| ecParamsInTemplate }
  if v ≠ pkcs11DerEncodedOidP256 then pure { st with xResult := .templateInconsistent }
  else (fun _ => st) <$> a.acceptCurve

end TemplateCheck

/-- One attribute of `prvCheckGenerateKeyPairPrivateTemplate`. -/
def parsePrivateTemplateAttribute (st : TemplateCheck) (a : CkAttribute) : Parse TemplateCheck :=
  match a.type with
  | .ckaLabel => pure (st.label a)
  | .ckaToken => st.parseTrue a .attributeValueInvalid 0
  | .ckaKeyType => st.parseKeyType a
  | .ckaPrivate => st.parseTrue a .templateInconsistent privateInTemplate
  | .ckaSign => st.parseTrue a .templateInconsistent signInTemplate
  | _ => pure { st with xResult := .templateInconsistent }

/-- One attribute of `prvCheckGenerateKeyPairPublicTemplate`. -/
def parsePublicTemplateAttribute (st : TemplateCheck) (a : CkAttribute) : Parse TemplateCheck :=
  match a.type with
  | .ckaLabel => pure (st.label a)
  | .ckaKeyType => st.parseKeyType a
  | .ckaEcParams => st.parseEcParams a
  | .ckaVerify => st.parseTrue a .templateInconsistent verifyInTemplate
  | .ckaToken => st.parseTrue a .attributeValueInvalid 0
  | _ => pure { st with xResult := .templateInconsistent }

/-- A template check: the result, and the label. -/
def parseTemplate (step : TemplateCheck → CkAttribute → Parse TemplateCheck)
    (xRequiredAttributeMap : BitVec 32) (template : List CkAttribute) :
    Parse (CkRv × Option CkAttribute) :=
  (fun st =>
    (if st.xAttributeMap &&& xRequiredAttributeMap ≠ xRequiredAttributeMap then .templateIncomplete
      else st.xResult, st.pxLabel)) <$> template.foldlM step ⟨none, .ok, 0⟩

def parsePrivateTemplate : List CkAttribute → Parse (CkRv × Option CkAttribute) :=
  parseTemplate parsePrivateTemplateAttribute
    (labelInTemplate ||| privateInTemplate ||| signInTemplate)

def parsePublicTemplate : List CkAttribute → Parse (CkRv × Option CkAttribute) :=
  parseTemplate parsePublicTemplateAttribute
    (labelInTemplate ||| ecParamsInTemplate ||| verifyInTemplate)

/-- The two template checks: the public template is looked at once the private one is accepted. -/
def parseTemplates (pub prv : List CkAttribute) (hPub hPrv : ObjectHandle) :
    Parse (Except CkRv KeyPairLabels) := do
  match ← parsePrivateTemplate prv with
  | (.ok, some prvLabel) =>
    match ← parsePublicTemplate pub with
    | (.ok, some pubLabel) => pure (.ok ⟨prvLabel, pubLabel, hPub, hPrv⟩)
    | (.ok, none) => .fail
    | (e, _) => pure (.error e)
  | (.ok, none) => .fail
  | (e, _) => pure (.error e)

/-- The checks of `C_GenerateKeyPair`. -/
def parseKeyPair (s : State) (args : KeyPairArgs) (malloc : Bool) :
    Parse (Except CkRv KeyPairLabels) :=
  if malloc then
    match sessionCheck s args.xSession with
    | .error e => pure (.error e)
    | .ok _ =>
      match args.pxPublicKeyTemplate, args.pxPrivateKeyTemplate, args.pxPublicKey,
        args.pxPrivateKey, args.pxMechanism with
      | some pub, some prv, some hPub, some hPrv, some mechanism =>
        if mechanism ≠ ckmEcKeyPairGen then pure (.error .mechanismParamInvalid)
        else parseTemplates pub prv hPub hPrv
      | _, _, _, _, _ => pure (.error .argumentsBad)
  else pure (.error .hostMemory)

/-! ## The calls -/

/-- The calls that take templates. -/
inductive TemplateCall
  | createObject (xSession : SessionHandle) (pxTemplate : Option (List CkAttribute))
      (pxObject : Option ObjectHandle) (a : CreateAns)
  | generateKeyPair (args : KeyPairArgs) (malloc : Bool)

/-- What a call does with the attributes of its templates. -/
def TemplateCall.accesses (mbed : Mbed ρ ε κ) (s : State) :
    TemplateCall → List (CkAttribute × Access)
  | .createObject xSession (some template) (some _) a =>
    match sessionCheck s xSession with
    | .error _ => []
    | .ok _ => (parseCreate mbed template a).log
  | .createObject _ _ _ _ => []
  | .generateKeyPair args malloc => (parseKeyPair s args malloc).log

end Pkcs11
