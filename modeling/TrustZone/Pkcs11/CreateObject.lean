import TrustZone.Pkcs11.ObjectManagement

/-!
# Creating objects

`C_CreateObject` with its three import functions: the template is read into a `SavePlan`, the object is
saved in PSA and listed. An attribute's value is the memory that `pValue` points to, `ulValueLen` what
the caller says about it; a `memcpy` that leaves a local variable, and a `NULL` that is read, do not
return. `mbedtls_rsa_import_raw` takes a `NULL` for a number that is not given.
-/

namespace Pkcs11

open Lib Psa Crypto

variable {κ ρ ε α : Type}

/-! ## Attributes -/

/-- `CK_ATTRIBUTE_TYPE`. -/
inductive AttributeType
  | ckaClass | ckaToken | ckaPrivate | ckaLabel | ckaValue | ckaCertificateType | ckaKeyType
  | ckaSubject | ckaSign | ckaVerify | ckaModulus | ckaPublicExponent | ckaPrivateExponent | ckaPrime1
  | ckaPrime2 | ckaExponent1 | ckaExponent2 | ckaCoefficient | ckaEcParams | ckaEcPoint
  | other (type : Nat)
  deriving DecidableEq

/-- `CK_ATTRIBUTE`. -/
structure CkAttribute where
  type : AttributeType
  pValue : Option (List UInt8)
  ulValueLen : Nat

namespace CkAttribute

/-- The bytes that `memcpy( .., pValue, n )` reads. -/
def read (a : CkAttribute) (n : Nat) : Option (List UInt8) := a.pValue.map fun v => slice (memOf v) 0 n

/-- A `CK_BBOOL`. -/
def readBool (a : CkAttribute) : Option UInt8 := (a.read 1).map fun b => memOf b 0

/-- A `CK_ULONG`. -/
def readUlong (a : CkAttribute) : Option Nat := (a.read 4).map leVal

/-- The C string at `pValue`. -/
def string (a : CkAttribute) : Option (List UInt8) := a.pValue.map cstr

/-- The `ulValueLen` bytes at `pValue`. -/
def bytes (a : CkAttribute) : Option (List UInt8) := a.read a.ulValueLen

/-- The memory that `mbedtls_mpi_read_binary` gets. It reads nothing when it is told a length of 0. -/
def input (a : CkAttribute) : Option (Nat → UInt8) :=
  match a.pValue with
  | some v => some (memOf v)
  | none => if a.ulValueLen = 0 then some (memOf []) else none

end CkAttribute

def ckTrue : UInt8 := 1
def ckcX509 : Nat := 0
def ckkRsa : Nat := 0
def ckkEc : Nat := 3

/-- `pkcs11DER_ENCODED_OID_P256`. -/
def pkcs11DerEncodedOidP256 : List UInt8 :=
  [0x06, 0x08, 0x2a, 0x86, 0x48, 0xce, 0x3d, 0x03, 0x01, 0x07]

/-! ## Templates -/

/-- What the loop over a template has so far: the label, the class, `xResult` and its own variables. -/
structure TemplateState (α : Type) where
  pxLabel : Option CkAttribute
  pxClass : Option CkAttribute
  xResult : CkRv
  ctx : α

/-- An attribute that must be `CK_TRUE`. -/
def TemplateState.checkTrue (st : TemplateState α) (a : CkAttribute) (e : CkRv) :
    Option (TemplateState α) :=
  a.readBool.map fun xBool => if xBool ≠ ckTrue then { st with xResult := e } else st

/-- A label, with the bound on its length. -/
def TemplateState.label (st : TemplateState α) (a : CkAttribute) (ok : Bool) : TemplateState α :=
  if ok then { st with pxLabel := some a } else { st with xResult := .dataLenRange }

/-- `CKA_EC_PARAMS`: `memcmp` over the length of the value, whatever it is; `stack` lies behind the
array it is compared with. -/
def TemplateState.ecParams (st : TemplateState α) (a : CkAttribute) (stack : List UInt8) :
    Option (TemplateState α) :=
  a.bytes.map fun v =>
    if slice (memOf (pkcs11DerEncodedOidP256 ++ stack)) 0 a.ulValueLen ≠ v then
      { st with xResult := .attributeValueInvalid }
    else st

/-- `CKA_SIGN` of an RSA key and `CKA_VERIFY`: `memcpy` of the whole value into `xBool`. -/
def TemplateState.checkTrueWhole (st : TemplateState α) (a : CkAttribute) (xBool : UInt8) (e : CkRv) :
    Option (UInt8 × TemplateState α) :=
  match a.pValue with
  | none => none
  | some v =>
    if 1 < a.ulValueLen then none
    else
      let xBool := if a.ulValueLen = 0 then xBool else memOf v 0
      some (xBool, if xBool ≠ ckTrue then { st with xResult := e } else st)

/-- The pointer and the length of a certificate. -/
structure CertificateValue where
  pxCertificateValue : Option (List UInt8)
  xCertificateLength : Nat

/-- One attribute of `prvCreateCertificate`. -/
def certificateAttribute (st : TemplateState CertificateValue) (a : CkAttribute) :
    Option (TemplateState CertificateValue) :=
  match a.type with
  | .ckaValue => some { st with ctx := ⟨a.pValue, a.ulValueLen⟩ }
  | .ckaLabel => some (st.label a (a.ulValueLen ≤ pkcs11configMaxLabelLength))
  | .ckaCertificateType =>
    a.readUlong.map fun t =>
      if t ≠ ckcX509 then { st with xResult := .attributeValueInvalid } else st
  | .ckaToken => st.checkTrue a .attributeValueInvalid
  | .ckaClass => some { st with pxClass := some a }
  | .ckaSubject => some st
  | _ => some { st with xResult := .templateInconsistent }

/-- One attribute of `prvCreateEcPrivateKey`. -/
def ecPrivateKeyAttribute (mbed : Mbed ρ ε κ) (stack : List UInt8)
    (st : TemplateState (PkContext ρ ε)) (a : CkAttribute) :
    Option (TemplateState (PkContext ρ ε)) :=
  match a.type with
  | .ckaClass => some { st with pxClass := some a }
  | .ckaKeyType => some st
  | .ckaToken => st.checkTrue a .attributeValueInvalid
  | .ckaSign => st.checkTrue a .attributeValueInvalid
  | .ckaLabel => some (st.label a (a.ulValueLen ≤ pkcs11configMaxLabelLength))
  | .ckaEcParams => st.ecParams a stack
  | .ckaValue =>
    match a.input, st.ctx with
    | some v, .ec e =>
      let (lMbedReturn, e) := mbed.mpiReadBinary v a.ulValueLen e
      let st := { st with ctx := .ec e }
      some (if lMbedReturn ≠ 0 then { st with xResult := .attributeValueInvalid } else st)
    | _, _ => none
  | _ => some { st with xResult := .templateInconsistent }

/-- The variables of the loop of `prvCreateRsaPrivateKey`. -/
structure RsaVars (ρ : Type) where
  rsa : ρ
  xBool : UInt8

/-- The field that an attribute of an RSA key stands for. -/
def rsaField : AttributeType → Option RsaField
  | .ckaModulus => some .modulus
  | .ckaPublicExponent => some .publicExponent
  | .ckaPrime1 => some .prime1
  | .ckaPrime2 => some .prime2
  | .ckaPrivateExponent => some .privateExponent
  | .ckaExponent1 => some .exponent1
  | .ckaExponent2 => some .exponent2
  | .ckaCoefficient => some .coefficient
  | _ => none

/-- A field is read by `mbedtls_rsa_import_raw` or `mbedtls_mpi_read_binary`. -/
def readField (mbed : Mbed ρ ε κ) (f : RsaField) (a : CkAttribute) (rsa : ρ) : Option (Int × ρ) :=
  if f.importRaw = true ∧ a.pValue = none then some (0, rsa)
  else a.input.map fun v => mbed.rsaRead f v a.ulValueLen rsa

/-- One attribute of `prvCreateRsaPrivateKey`, with `lMbedReturn`. -/
def rsaPrivateKeyAttribute (mbed : Mbed ρ ε κ) (st : TemplateState (RsaVars ρ)) (a : CkAttribute) :
    Option (Int × TemplateState (RsaVars ρ)) :=
  match a.type with
  | .ckaClass => some (0, { st with pxClass := some a })
  | .ckaKeyType => some (0, st)
  | .ckaToken =>
    a.readBool.map fun xBool =>
      let st := { st with ctx := { st.ctx with xBool := xBool } }
      (0, if xBool ≠ ckTrue then { st with xResult := .attributeValueInvalid } else st)
  | .ckaLabel => some (0, st.label a (a.ulValueLen ≤ pkcs11configMaxLabelLength))
  | .ckaSign =>
    (st.checkTrueWhole a st.ctx.xBool .templateInconsistent).map fun (xBool, st) =>
      (0, { st with ctx := { st.ctx with xBool := xBool } })
  | type =>
    match rsaField type with
    | some f =>
      (readField mbed f a st.ctx.rsa).map fun (lMbedReturn, rsa) =>
        (lMbedReturn, { st with ctx := { st.ctx with rsa := rsa } })
    | none => some (0, { st with xResult := .templateInconsistent })

/-- The loop of `prvCreateRsaPrivateKey`: it ends at the first field that is refused. -/
def prvCreateRsaPrivateKey (mbed : Mbed ρ ε κ) :
    List CkAttribute → TemplateState (RsaVars ρ) → Option (TemplateState (RsaVars ρ))
  | [], st => some st
  | a :: as, st =>
    match rsaPrivateKeyAttribute mbed st a with
    | none => none
    | some (lMbedReturn, st) =>
      if lMbedReturn ≠ 0 then some { st with xResult := .attributeValueInvalid }
      else prvCreateRsaPrivateKey mbed as st

/-- The variables of the loop of `prvCreateECPublicKey`. -/
structure EcVars (ρ ε : Type) where
  pk : PkContext ρ ε
  xBool : UInt8

/-- One attribute of `prvCreateECPublicKey`. The length without the two bytes of ASN.1 is a
`CK_ULONG`. -/
def ecPublicKeyAttribute (mbed : Mbed ρ ε κ) (stack : List UInt8) (st : TemplateState (EcVars ρ ε))
    (a : CkAttribute) : Option (TemplateState (EcVars ρ ε)) :=
  match a.type with
  | .ckaClass => some { st with pxClass := some a }
  | .ckaKeyType => some st
  | .ckaToken =>
    a.readBool.map fun xBool =>
      let st := { st with ctx := { st.ctx with xBool := xBool } }
      if xBool ≠ ckTrue then { st with xResult := .attributeValueInvalid } else st
  | .ckaLabel => some (st.label a (a.ulValueLen < pkcs11configMaxLabelLength))
  | .ckaVerify =>
    (st.checkTrueWhole a st.ctx.xBool .attributeValueInvalid).map fun (xBool, st) =>
      { st with ctx := { st.ctx with xBool := xBool } }
  | .ckaEcParams => st.ecParams a stack
  | .ckaEcPoint =>
    match a.pValue, st.ctx.pk with
    | some v, .ec e =>
      let len := (BitVec.ofNat 32 a.ulValueLen - 2).toNat
      let (lMbedReturn, e) := mbed.ecpPointReadBinary (memOf (v.drop 2)) len e
      let st := { st with ctx := { st.ctx with pk := .ec e } }
      some (if lMbedReturn ≠ 0 then { st with xResult := .attributeValueInvalid } else st)
    | _, _ => none
  | _ => some { st with xResult := .attributeTypeInvalid }

/-! ## The three imports -/

/-- How the calls of one `C_CreateObject` answer: the two allocations, what the stack holds, PSA, and
whether the mutex of the list is taken. -/
structure CreateAns where
  mallocContext : Bool
  mallocDer : Bool
  stack : List UInt8
  xBool : UInt8
  save : SaveAns
  lock : Bool

/-- What is handed to `PKCS11PSASaveObject`. -/
structure SavePlan (ρ ε : Type) where
  pxClass : Option CkAttribute
  pxLabel : Option CkAttribute
  pucData : List UInt8
  ulDataSize : Nat
  pvContext : Option (PkContext ρ ε)

/-- An object read from a template, or the error, with the blocks that were taken from the heap. -/
structure Prepared (ρ ε : Type) where
  plan : Except CkRv (SavePlan ρ ε)
  heap : List HeapOp

/-- `prvCreateCertificate`, up to the saving. -/
def certificatePlan (template : List CkAttribute) : Option (Prepared ρ ε) :=
  (template.foldlM certificateAttribute ⟨none, none, .ok, ⟨none, 0⟩⟩).map fun st =>
    match st.ctx.pxCertificateValue, st.pxLabel with
    | some v, some label =>
      if st.xResult = .ok then
        let len := st.ctx.xCertificateLength
        ⟨.ok ⟨st.pxClass, some label, slice (memOf v) 0 len, len, none⟩, []⟩
      else ⟨.error st.xResult, []⟩
    | _, _ => ⟨.error .templateIncomplete, []⟩

/-- `prvGetKeyType`. The first attribute of the type counts. -/
def prvGetKeyType (template : List CkAttribute) : Option (Option Nat) :=
  match template.find? (·.type = .ckaKeyType) with
  | none => some none
  | some a => a.readUlong.map some

/-- The DER buffer of a key, and what is written into it. -/
def derPlan (st : TemplateState (PkContext ρ ε)) (heap : List HeapOp) (mallocDer : Bool)
    (write : Except CkRv (List UInt8 × Nat)) : Prepared ρ ε :=
  if st.xResult = .ok then
    if mallocDer then
      match write with
      | .ok (der, len) => ⟨.ok ⟨st.pxClass, st.pxLabel, der, len, some st.ctx⟩, heap ++ [.malloc]⟩
      | .error e => ⟨.error e, heap ++ [.malloc, .free]⟩
    else ⟨.error .hostMemory, heap⟩
  else ⟨.error st.xResult, heap⟩

/-- The DER of a private key. -/
def writePrivateKey (mbed : Mbed ρ ε κ) (pk : PkContext ρ ε) : Except CkRv (List UInt8 × Nat) :=
  match mbed.pkWriteKeyDer pk with
  | .ok der => .ok (der, der.length)
  | .error _ => .error .attributeValueInvalid

/-- The DER of a public key. The error of `mbedtls_pk_write_pubkey_der` becomes a length. -/
def writePublicKey (mbed : Mbed ρ ε κ) (pk : PkContext ρ ε) : Except CkRv (List UInt8 × Nat) :=
  match mbed.pkWritePubkeyDer pk with
  | .ok der => .ok (der, der.length)
  | .error ret => .ok ([], (BitVec.ofInt 32 ret).toNat)

/-- `prvCreatePrivateKey`, up to the saving. An EC key goes on without its context. -/
def privateKeyPlan (mbed : Mbed ρ ε κ) (template : List CkAttribute) (a : CreateAns) :
    Option (Prepared ρ ε) :=
  match prvGetKeyType template with
  | none => none
  | some xKeyType =>
    if xKeyType = some ckkRsa then
      if a.mallocContext then
        (prvCreateRsaPrivateKey mbed template ⟨none, none, .ok, ⟨mbed.rsaInit, a.xBool⟩⟩).map
          fun st =>
            let pk := .rsa st.ctx.rsa
            derPlan ⟨st.pxLabel, st.pxClass, st.xResult, pk⟩ [.malloc] a.mallocDer
              (writePrivateKey mbed pk)
      else some ⟨.error .hostMemory, []⟩
    else if xKeyType = some ckkEc then
      let (pk, heap) :=
        if a.mallocContext then (.ec mbed.ecpKeypairInit, [.malloc]) else (.null, [])
      (template.foldlM (ecPrivateKeyAttribute mbed a.stack) ⟨none, none, .ok, pk⟩).map fun st =>
        derPlan st heap a.mallocDer (writePrivateKey mbed st.ctx)
    else some ⟨.error .mechanismInvalid, []⟩

/-- `prvCreatePublicKey`, up to the saving. -/
def publicKeyPlan (mbed : Mbed ρ ε κ) (template : List CkAttribute) (a : CreateAns) :
    Option (Prepared ρ ε) :=
  match prvGetKeyType template with
  | none => none
  | some xKeyType =>
    if xKeyType = some ckkRsa then some ⟨.error .attributeTypeInvalid, []⟩
    else if xKeyType = some ckkEc then
      let (pk, heap) :=
        if a.mallocContext then (.ec mbed.ecpKeypairInit, [.malloc]) else (.null, [])
      (template.foldlM (ecPublicKeyAttribute mbed a.stack) ⟨none, none, .ok, ⟨pk, a.xBool⟩⟩).map
        fun st =>
          derPlan ⟨st.pxLabel, st.pxClass, st.xResult, st.ctx.pk⟩ heap a.mallocDer
            (writePublicKey mbed st.ctx.pk)
    else some ⟨.error .mechanismInvalid, []⟩

/-! ## `C_CreateObject` -/

/-- What a call leaves: its result, `*pxObject`, its heap operations and the device. -/
structure CreateResult (κ : Type) where
  rv : CkRv
  pxObject : ObjectHandle
  heap : List HeapOp
  post : Device κ

/-- The end of the three imports: the object is saved, then listed. -/
def saveAndAdd (mbed : Mbed ρ ε κ) (d : Device κ) (plan : SavePlan ρ ε) (pxObject : ObjectHandle)
    (a : CreateAns) : Option (CkRv × ObjectHandle × Device κ) :=
  match plan.pxClass.bind (·.readUlong) with
  | none => none
  | some xClass =>
    match pkcs11PsaSaveObject mbed d.psa d.p11.p11KeyConfig xClass (plan.pxLabel.bind (·.string))
        plan.pucData plan.ulDataSize plan.pvContext a.save with
    | none => none
    | some (xPalHandle, cfg, psa) =>
      let d : Device κ := ⟨{ d.p11 with p11KeyConfig := cfg }, psa⟩
      if xPalHandle = ckInvalidHandle then some (.deviceMemory, pxObject, d)
      else
        match plan.pxLabel.bind (·.bytes) with
        | none => none
        | some label =>
          let (rv, h, l) := prvAddObjectToList a.lock d.p11.xObjectList xPalHandle label
          some (rv, h.getD pxObject, ⟨{ d.p11 with xObjectList := l }, d.psa⟩)

/-- The plan of the object class: the first `CKA_CLASS` of the template says which import reads it. -/
def createPlan (mbed : Mbed ρ ε κ) (template : List CkAttribute) (a : CreateAns) :
    Option (Prepared ρ ε) :=
  match template.find? (·.type = .ckaClass) with
  | none => some ⟨.error .templateIncomplete, []⟩
  | some c =>
    match c.readUlong with
    | none => none
    | some xClass =>
      if xClass = ckoCertificate then certificatePlan template
      else if xClass = ckoPrivateKey then privateKeyPlan mbed template a
      else if xClass = ckoPublicKey then publicKeyPlan mbed template a
      else some ⟨.error .attributeValueInvalid, []⟩

/-- `C_CreateObject`. What was taken from the heap for a plan that is saved is given back. -/
def cCreateObject (mbed : Mbed ρ ε κ) (d : Device κ) (xSession : SessionHandle)
    (pxTemplate : Option (List CkAttribute)) (pxObject : Option ObjectHandle) (a : CreateAns) :
    Option (CreateResult κ) :=
  match pxTemplate, pxObject with
  | some template, some h =>
    match sessionCheck d.p11 xSession with
    | .error e => some ⟨e, h, [], d⟩
    | .ok _ =>
      match createPlan mbed template a with
      | none => none
      | some ⟨.error e, heap⟩ => some ⟨e, h, heap, d⟩
      | some ⟨.ok plan, heap⟩ =>
        match saveAndAdd mbed d plan h a with
        | none => none
        | some (rv, h, d) => some ⟨rv, h, heap ++ List.replicate (heap.count .malloc) .free, d⟩
  | _, h => some ⟨.argumentsBad, h.getD ckInvalidHandle, [], d⟩

end Pkcs11
