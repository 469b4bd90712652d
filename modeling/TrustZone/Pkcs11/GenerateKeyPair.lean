import TrustZone.Pkcs11.CreateObject

/-!
# Generating a key pair

`C_GenerateKeyPair`: the two templates are checked, a P-256 key pair is generated, its public key is
exported and imported again, and both keys are recorded and listed. The labels are compared after the
keys exist.
-/

namespace Pkcs11

open Lib Psa Crypto

variable {κ : Type}

/-- `pkcs11KEY_ECPOINT_LENGTH`. -/
def pkcs11KeyEcpointLength : Nat := 65

/-- `CKM_EC_KEY_PAIR_GEN`. -/
def ckmEcKeyPairGen : MechanismType := 0x00001040

/-! ## The templates -/

def labelInTemplate : BitVec 32 := 1
def privateInTemplate : BitVec 32 := 2
def signInTemplate : BitVec 32 := 4
def ecParamsInTemplate : BitVec 32 := 8
def verifyInTemplate : BitVec 32 := 16

/-- What the loop of a template check has so far. -/
structure TemplateCheck where
  pxLabel : Option CkAttribute
  xResult : CkRv
  xAttributeMap : BitVec 32

namespace TemplateCheck

/-- The label. -/
def label (st : TemplateCheck) (a : CkAttribute) : TemplateCheck :=
  { st with pxLabel := some a, xAttributeMap := st.xAttributeMap ||| labelInTemplate }

/-- An attribute that must be `CK_TRUE`, noted under `bit`. -/
def checkTrue (st : TemplateCheck) (a : CkAttribute) (e : CkRv) (bit : BitVec 32) :
    Option TemplateCheck :=
  a.readBool.map fun xBool =>
    { st with
      xResult := if xBool ≠ ckTrue then e else st.xResult
      xAttributeMap := st.xAttributeMap ||| bit }

/-- The key type, which must be `CKK_EC`. -/
def checkKeyType (st : TemplateCheck) (a : CkAttribute) : Option TemplateCheck :=
  a.readUlong.map fun xKeyType =>
    if xKeyType ≠ ckkEc then { st with xResult := .templateInconsistent } else st

/-- The curve, which must be P-256. -/
def checkEcParams (st : TemplateCheck) (a : CkAttribute) : Option TemplateCheck :=
  (a.read pkcs11DerEncodedOidP256.length).map fun v =>
    { st with
      xResult := if v ≠ pkcs11DerEncodedOidP256 then .templateInconsistent else st.xResult
      xAttributeMap := st.xAttributeMap ||| ecParamsInTemplate }

end TemplateCheck

/-- One attribute of `prvCheckGenerateKeyPairPrivateTemplate`. -/
def privateTemplateAttribute (st : TemplateCheck) (a : CkAttribute) : Option TemplateCheck :=
  match a.type with
  | .ckaLabel => some (st.label a)
  | .ckaToken => st.checkTrue a .attributeValueInvalid 0
  | .ckaKeyType => st.checkKeyType a
  | .ckaPrivate => st.checkTrue a .templateInconsistent privateInTemplate
  | .ckaSign => st.checkTrue a .templateInconsistent signInTemplate
  | _ => some { st with xResult := .templateInconsistent }

/-- One attribute of `prvCheckGenerateKeyPairPublicTemplate`. -/
def publicTemplateAttribute (st : TemplateCheck) (a : CkAttribute) : Option TemplateCheck :=
  match a.type with
  | .ckaLabel => some (st.label a)
  | .ckaKeyType => st.checkKeyType a
  | .ckaEcParams => st.checkEcParams a
  | .ckaVerify => st.checkTrue a .templateInconsistent verifyInTemplate
  | .ckaToken => st.checkTrue a .attributeValueInvalid 0
  | _ => some { st with xResult := .templateInconsistent }

/-- A template check: the result, and the label. -/
def checkTemplate (step : TemplateCheck → CkAttribute → Option TemplateCheck)
    (xRequiredAttributeMap : BitVec 32) (template : List CkAttribute) :
    Option (CkRv × Option CkAttribute) :=
  (template.foldlM step ⟨none, .ok, 0⟩).map fun st =>
    (if st.xAttributeMap &&& xRequiredAttributeMap ≠ xRequiredAttributeMap then .templateIncomplete
      else st.xResult, st.pxLabel)

def prvCheckGenerateKeyPairPrivateTemplate :
    List CkAttribute → Option (CkRv × Option CkAttribute) :=
  checkTemplate privateTemplateAttribute (labelInTemplate ||| privateInTemplate ||| signInTemplate)

def prvCheckGenerateKeyPairPublicTemplate : List CkAttribute → Option (CkRv × Option CkAttribute) :=
  checkTemplate publicTemplateAttribute (labelInTemplate ||| ecParamsInTemplate ||| verifyInTemplate)

/-! ## `C_GenerateKeyPair` -/

/-- The arguments; `none` is `NULL`, and the object pointers come with what they point to. -/
structure KeyPairArgs where
  xSession : SessionHandle
  pxMechanism : Option MechanismType
  pxPublicKeyTemplate : Option (List CkAttribute)
  pxPrivateKeyTemplate : Option (List CkAttribute)
  pxPublicKey : Option ObjectHandle
  pxPrivateKey : Option ObjectHandle

/-- How the calls of one `C_GenerateKeyPair` answer. -/
structure KeyPairAns (κ : Type) where
  malloc : Bool
  key : κ
  generateKey : PsaStores.NewKeyAns
  exportPublicKey : Option PsaError
  importKey : PsaStores.NewKeyAns
  lockPrivate : Bool
  lockPublic : Bool

/-- What passes the checks: the labels, and what the object pointers point to. -/
structure KeyPairLabels where
  privateLabel : CkAttribute
  publicLabel : CkAttribute
  publicKey : ObjectHandle
  privateKey : ObjectHandle

/-- The checks of `C_GenerateKeyPair`. -/
def checkKeyPair (s : State) (args : KeyPairArgs) (malloc : Bool) :
    Option (Except CkRv KeyPairLabels) :=
  if malloc then
    match sessionCheck s args.xSession with
    | .error e => some (.error e)
    | .ok _ =>
      match args.pxPublicKeyTemplate, args.pxPrivateKeyTemplate, args.pxPublicKey,
        args.pxPrivateKey, args.pxMechanism with
      | some pub, some prv, some hPub, some hPrv, some mechanism =>
        if mechanism ≠ ckmEcKeyPairGen then some (.error .mechanismParamInvalid)
        else
          match prvCheckGenerateKeyPairPrivateTemplate prv with
          | some (.ok, some prvLabel) =>
            match prvCheckGenerateKeyPairPublicTemplate pub with
            | some (.ok, some pubLabel) => some (.ok ⟨prvLabel, pubLabel, hPub, hPrv⟩)
            | some (.ok, none) => none
            | some (e, _) => some (.error e)
            | none => none
          | some (.ok, none) => none
          | some (e, _) => some (.error e)
          | none => none
      | _, _, _, _, _ => some (.error .argumentsBad)
  else some (.error .hostMemory)

/-- The id under which a key is created: the fixed one if the label is that of the slot. -/
def keyIdOf (k : DeviceKey) (label : List UInt8) : KeyHandle := if label = k.label then k.keyId else 0

/-- The keys of a call: `psa_generate_key`, `psa_export_public_key` and `psa_import_key`. -/
structure GeneratedKeys (κ : Type) where
  psa : PsaStores κ
  uxStatus : Status
  hPrivate : KeyHandle
  hPublic : KeyHandle

/-- `psa_generate_key` under the private label, and the export of the public key. -/
def generatePrivateKey (publicKey : κ → List UInt8) (p : PsaStores κ) (label : List UInt8)
    (a : KeyPairAns κ) : GeneratedKeys κ × List UInt8 :=
  let (p, uxStatus, h) := p.newKey (keyIdOf .devicePrivate label) (.keyPair a.key) a.generateKey
  if uxStatus = psaSuccess then
    let (uxStatus, point) :=
      p.exportPublicKey publicKey h pkcs11KeyEcpointLength a.exportPublicKey
    (⟨p, uxStatus, h, 0⟩, point)
  else (⟨p, uxStatus, h, 0⟩, [])

/-- `psa_import_key` of the public key under the public label. -/
def importPublicKey (g : GeneratedKeys κ) (label point : List UInt8) (a : KeyPairAns κ) :
    GeneratedKeys κ :=
  let (p, uxStatus, h) := g.psa.newKey (keyIdOf .devicePublic label) (.publicKey point) a.importKey
  ⟨p, uxStatus, g.hPrivate, h⟩

/-- A generated key is recorded and listed if its label is that of the slot. -/
def recordKey (d : Device κ) (k : DeviceKey) (pal : ObjectHandle) (label bytes : List UInt8)
    (h : KeyHandle) (lock : Bool) : CkRv × Option ObjectHandle × Device κ :=
  if label = k.label then
    let cfg := pkcs11PsaContextImportObject d.p11.p11KeyConfig label h
    let (rv, o, l) := prvAddObjectToList lock d.p11.xObjectList pal bytes
    (rv, o, ⟨{ d.p11 with p11KeyConfig := cfg, xObjectList := l }, d.psa⟩)
  else (.attributeValueInvalid, none, d)

/-- What a call leaves: its result, the two object handles, its heap operations and the device. -/
structure KeyPairResult (κ : Type) where
  rv : CkRv
  pxPublicKey : Option ObjectHandle
  pxPrivateKey : Option ObjectHandle
  heap : List HeapOp
  post : Device κ

/-- Both keys are recorded: the public one once the private one is. -/
def recordKeys (d : Device κ) (g : GeneratedKeys κ) (prv pub prvBytes pubBytes : List UInt8)
    (a : KeyPairAns κ) (hPub hPrv : ObjectHandle) : KeyPairResult κ :=
  let d : Device κ := ⟨d.p11, g.psa⟩
  match recordKey d .devicePrivate eAwsDevicePrivateKey prv prvBytes g.hPrivate a.lockPrivate with
  | (.ok, o, d) =>
    match recordKey d .devicePublic eAwsDevicePublicKey pub pubBytes g.hPublic a.lockPublic with
    | (rv, o', d) => ⟨rv, some (o'.getD hPub), some (o.getD hPrv), [.malloc], d⟩
  | (rv, o, d) => ⟨rv, some hPub, some (o.getD hPrv), [.malloc], d⟩

/-- `C_GenerateKeyPair`. The buffer for the public key is never given back. -/
def cGenerateKeyPair (publicKey : κ → List UInt8) (d : Device κ) (args : KeyPairArgs)
    (a : KeyPairAns κ) : Option (KeyPairResult κ) :=
  let heap : List HeapOp := if a.malloc then [.malloc] else []
  match checkKeyPair d.p11 args a.malloc with
  | none => none
  | some (.error e) => some ⟨e, args.pxPublicKey, args.pxPrivateKey, heap, d⟩
  | some (.ok labels) =>
    match labels.privateLabel.string, labels.privateLabel.bytes with
    | some prv, some prvBytes =>
      let (g, point) := generatePrivateKey publicKey d.psa prv a
      if g.uxStatus = psaSuccess then
        match labels.publicLabel.string, labels.publicLabel.bytes with
        | some pub, some pubBytes =>
          let g := importPublicKey g pub point a
          if g.uxStatus = psaSuccess then
            some (recordKeys d g prv pub prvBytes pubBytes a labels.publicKey labels.privateKey)
          else some ⟨.functionFailed, args.pxPublicKey, args.pxPrivateKey, heap, ⟨d.p11, g.psa⟩⟩
        | _, _ => none
      else some ⟨.functionFailed, args.pxPublicKey, args.pxPrivateKey, heap, ⟨d.p11, g.psa⟩⟩
    | _, _ => none

end Pkcs11
