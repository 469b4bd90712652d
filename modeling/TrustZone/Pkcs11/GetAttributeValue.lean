import TrustZone.Crypto.PkiObject
import TrustZone.Pkcs11.CreateObject

/-!
# Reading attributes

`C_GetAttributeValue`, over `PKCS11PSAGetObjectValue`: the value of an object is copied into an array on
the stack, and each attribute of the template is made of it. A copy that leaves the array or the
caller's memory does not return.
-/

namespace Pkcs11

open Lib Psa Crypto

/-! ## Sizes of exported keys -/

def psaKeyTypeRsaPublicKeyType : KeyType := 0x4001
def psaKeyTypeDsaKeyPair : KeyType := 0x7002
def psaKeyTypeDsaPublicKey : KeyType := 0x4002
def psaKeyTypeEccKeyPairBase : KeyType := 0x7100

/-- `PSA_BITS_TO_BYTES`. -/
def psaBitsToBytes (bits : Nat) : Nat := (bits + 7) / 8

/-- `PSA_KEY_EXPORT_ASN1_INTEGER_MAX_SIZE`. -/
def psaKeyExportAsn1IntegerMaxSize (bits : Nat) : Nat := bits / 8 + 5

/-- `PSA_EXPORT_KEY_OUTPUT_SIZE`. -/
def psaExportKeyOutputSize (type : KeyType) (bits : Nat) : Nat :=
  if psaKeyTypeIsUnstructured type then psaBitsToBytes bits
  else if type = psaKeyTypeRsaKeyPair then 9 * psaKeyExportAsn1IntegerMaxSize (bits / 2 + 1) + 14
  else if type = psaKeyTypeRsaPublicKeyType then psaKeyExportAsn1IntegerMaxSize bits + 11
  else if type = psaKeyTypeDsaKeyPair then psaKeyExportAsn1IntegerMaxSize bits * 3 + 75
  else if type = psaKeyTypeDsaPublicKey then psaKeyExportAsn1IntegerMaxSize bits * 3 + 59
  else if type &&& ~~~psaKeyTypeEccCurveMask = psaKeyTypeEccKeyPairBase then psaBitsToBytes bits
  else if type &&& ~~~psaKeyTypeEccCurveMask = psaKeyTypeEccPublicKeyBase then
    2 * psaBitsToBytes bits + 1
  else 0

/-! ## Object values -/

/-- What the services answer during one call: PSA (a key's attributes come with its algorithm), the
allocator and `convert_pem_to_der`; further what lies in the array before, and the size of an
`mbedtls_ecp_point`. -/
structure ValueEnv where
  getKeyAttributes : KeyHandle → Status × KeyAttributes × Algorithm
  exportKey : KeyHandle → Nat → Status × List UInt8
  psGetInfo : Nat → Status × Nat
  psGet : Nat → Nat → Status × List UInt8
  malloc : Nat → Bool
  convertPemToDer : List UInt8 → Nat → Option (List UInt8)
  ucGetData : List UInt8
  ecpPointSize : Nat

/-- The value of an object, and `*pIsPrivate`. -/
structure ObjectValue where
  pucData : List UInt8
  isPrivate : Bool

/-- `PSAGetCertificateValue`. -/
def psaGetCertificateValue (env : ValueEnv) (uid : Nat) : Option (Except CkRv ObjectValue) :=
  let (uxStatus, size) := env.psGetInfo uid
  if uxStatus = psaSuccess then
    if env.malloc size then
      let (uxStatus, pucBuffer) := env.psGet uid size
      if uxStatus = psaSuccess then
        match env.convertPemToDer pucBuffer pkcs11ObjectMaxSize with
        | some der => some (.ok ⟨der, false⟩)
        | none =>
          if pucBuffer.length ≤ pkcs11ObjectMaxSize then some (.ok ⟨pucBuffer, false⟩) else none
      else some (.error .functionFailed)
    else some (.error .deviceMemory)
  else some (.error .objectHandleInvalid)

/-- The branch of `PKCS11PSAGetObjectValue` for a key. -/
def psaGetKeyValue (env : ValueEnv) (uxKey : KeyHandle) : Option (Except CkRv ObjectValue) :=
  let (uxStatus, attributes, _) := env.getKeyAttributes uxKey
  if uxStatus = psaSuccess then
    let bufferSize := psaExportKeyOutputSize attributes.type attributes.bits.toNat
    let (uxStatus, data) := env.exportKey uxKey bufferSize
    if uxStatus = psaErrorNotPermitted then some (.ok ⟨env.ucGetData, true⟩)
    else if uxStatus = psaSuccess then
      if data.length ≤ pkcs11ObjectMaxSize then some (.ok ⟨data, false⟩) else none
    else some (.error .functionFailed)
  else some (.error .functionFailed)

/-- The value of an object that has its mark. -/
def ifMarked (mark : Bool) (value : Option (Except CkRv ObjectValue)) :
    Option (Except CkRv ObjectValue) :=
  if mark then value else some (.error .objectHandleInvalid)

/-- `PKCS11PSAGetObjectValue`. -/
def pkcs11PsaGetObjectValue (env : ValueEnv) (c : P11KeyConfig) (xHandle : ObjectHandle) :
    Option (Except CkRv ObjectValue) :=
  if xHandle = eAwsDeviceCertificate then
    ifMarked c.xDeviceCertificateMark (psaGetCertificateValue env psaDeviceCertificateUid)
  else if xHandle = eAwsJitpCertificate then
    ifMarked c.xJitpCertificateMark (psaGetCertificateValue env psaJitpCertificateUid)
  else if xHandle = eAwsRootCertificate then
    ifMarked c.xRootCertificateMark (psaGetCertificateValue env psaRootCertificateUid)
  else if xHandle = eAwsDevicePrivateKey then
    ifMarked c.xDevicePrivateKeyMark (psaGetKeyValue env c.uxDevicePrivateKey)
  else if xHandle = eAwsDevicePublicKey then
    ifMarked c.xDevicePublicKeyMark (psaGetKeyValue env c.uxDevicePublicKey)
  else if xHandle = eAwsCodeVerifyingKey then
    ifMarked c.xCodeVerifyKeyMark (psaGetKeyValue env c.uxCodeVerifyKey)
  else some (.error .objectHandleInvalid)

/-! ## `C_GetAttributeValue` -/

/-- `CK_UNAVAILABLE_INFORMATION`. -/
def ckUnavailableInformation : Nat := 2 ^ 32 - 1

/-- `memcpy( pValue, .. )`. -/
def CkAttribute.store (a : CkAttribute) (bytes : List UInt8) : Option CkAttribute :=
  match a.pValue with
  | none => none
  | some v => if bytes.length ≤ v.length then some { a with pValue := some (blit v 0 bytes) } else none

/-- The class of a PAL handle. -/
def palClass (xPalHandle : ObjectHandle) : Option Nat :=
  if xPalHandle = eAwsDevicePrivateKey then some ckoPrivateKey
  else if xPalHandle = eAwsDevicePublicKey ∨ xPalHandle = eAwsCodeVerifyingKey then
    some ckoPublicKey
  else if xPalHandle = eAwsJitpCertificate ∨ xPalHandle = eAwsRootCertificate ∨
      xPalHandle = eAwsDeviceCertificate then some ckoCertificate
  else none

/-- The key type that a policy allows for. -/
def keyTypeOf (env : ValueEnv) (c : P11KeyConfig) (pcLabel : List UInt8) : Except CkRv Nat :=
  match pkcs11PsaGetKeyHandle c pcLabel with
  | (.ok, ulKeyHandle) =>
    let (uxStatus, _, keyAlgorithm) := env.getKeyAttributes ulKeyHandle
    if uxStatus ≠ psaSuccess then .error .functionFailed
    else if psaAlgIsEcdsa keyAlgorithm then .ok ckkEc
    else if psaAlgIsRsaPkcs1v15Sign keyAlgorithm ∨ psaAlgIsRsaPss keyAlgorithm then .ok ckkRsa
    else .error .attributeValueInvalid
  | (rv, _) => .error rv

/-- An attribute of four bytes. -/
def ulongAttribute (a : CkAttribute) (value : Except CkRv Nat) : Option (CkRv × CkAttribute) :=
  if a.pValue = none then some (.ok, { a with ulValueLen := 4 })
  else if a.ulValueLen < 4 then some (.bufferTooSmall, a)
  else
    match value with
    | .error rv => some (rv, a)
    | .ok n => (a.store (leBytes 4 n)).map (.ok, ·)

/-- One attribute of the template. The class of a handle that is none of the six is not copied. -/
def getAttribute (env : ValueEnv) (c : P11KeyConfig) (xPalHandle : ObjectHandle)
    (pcLabel : List UInt8) (v : ObjectValue) (a : CkAttribute) : Option (CkRv × CkAttribute) :=
  match a.type with
  | .ckaClass =>
    ulongAttribute a <|
      match palClass xPalHandle with
      | some xClass => .ok xClass
      | none => .error .objectHandleInvalid
  | .ckaValue =>
    if v.isPrivate then
      some (.attributeSensitive, { a with ulValueLen := ckUnavailableInformation })
    else if a.pValue = none then some (.ok, { a with ulValueLen := v.pucData.length })
    else if a.ulValueLen < v.pucData.length then some (.bufferTooSmall, a)
    else (a.store v.pucData).map (.ok, ·)
  | .ckaKeyType => ulongAttribute a (keyTypeOf env c pcLabel)
  | .ckaPrivateExponent => some (.attributeSensitive, a)
  | .ckaEcParams =>
    let a := { a with ulValueLen := pkcs11DerEncodedOidP256.length }
    if a.pValue = none then some (.ok, a) else (a.store pkcs11DerEncodedOidP256).map (.ok, ·)
  | .ckaEcPoint =>
    if a.pValue = none then some (.ok, { a with ulValueLen := 67 })
    else if a.ulValueLen < env.ecpPointSize then some (.bufferTooSmall, a)
    else
      let a := { a with ulValueLen := v.pucData.length + 2 }
      (a.store (0x04 :: UInt8.ofNat v.pucData.length :: v.pucData)).map (.ok, ·)
  | _ => some (.attributeTypeInvalid, a)

/-- The loop over the template: it ends at the first attribute that is refused. -/
def getAttributes (env : ValueEnv) (c : P11KeyConfig) (xPalHandle : ObjectHandle)
    (pcLabel : List UInt8) (v : ObjectValue) :
    List CkAttribute → Option (CkRv × List CkAttribute)
  | [] => some (.ok, [])
  | a :: as =>
    match getAttribute env c xPalHandle pcLabel v a with
    | none => none
    | some (.ok, a) =>
      (getAttributes env c xPalHandle pcLabel v as).map fun (rv, as) => (rv, a :: as)
    | some (rv, a) => some (rv, a :: as)

/-- `C_GetAttributeValue`: the result, and the template. -/
def cGetAttributeValue (env : ValueEnv) (s : State) (xSession : SessionHandle)
    (xObject : ObjectHandle) (pxTemplate : Option (List CkAttribute)) :
    Option (CkRv × Option (List CkAttribute)) :=
  match sessionCheck s xSession with
  | .error e => some (e, pxTemplate)
  | .ok _ =>
    match pxTemplate with
    | none => some (.argumentsBad, none)
    | some [] => some (.argumentsBad, some [])
    | some template =>
      let (xPalHandle, pcLabel) := prvFindObjectInListByHandle s.xObjectList xObject
      if xPalHandle ≠ ckInvalidHandle then
        match pkcs11PsaGetObjectValue env s.p11KeyConfig xPalHandle with
        | none => none
        | some (.error e) => some (e, some template)
        | some (.ok v) =>
          (getAttributes env s.p11KeyConfig xPalHandle (pcLabel.getD []) v template).map
            fun (rv, template) => (rv, some template)
      else some (.objectHandleInvalid, some template)

end Pkcs11
