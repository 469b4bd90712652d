import TrustZone.Pkcs11.GetAttributeValue

/-!
# What `C_GetAttributeValue` writes

The calls of `GetAttributeValue` again, with what they write in place of the memory that they write to.
`PKCS11PSAGetObjectValue` copies a value into a buffer whose capacity it is told; every attribute of the
template leaves its result, the new `ulValueLen` and the bytes that were copied to `pValue`.
-/

namespace Pkcs11

open Lib Psa Crypto

/-! ## Values -/

/-- What a call that succeeds has written into the buffer; the value is what the buffer holds after it,
`*pulDataSize` bytes of it, with `*pIsPrivate`. -/
structure ValueCopy where
  written : List UInt8
  value : ObjectValue

/-- `PSAGetCertificateValue`. `convert_pem_to_der` is told the capacity, the copy of what is no PEM is
not. -/
def copyCertificateValue (env : ValueEnv) (capacity : Nat) (uid : Nat) : Except CkRv ValueCopy :=
  let (uxStatus, size) := env.psGetInfo uid
  if uxStatus = psaSuccess then
    if env.malloc size then
      let (uxStatus, pucBuffer) := env.psGet uid size
      if uxStatus = psaSuccess then
        let data := (env.convertPemToDer pucBuffer capacity).getD pucBuffer
        .ok ⟨data, data, false⟩
      else .error .functionFailed
    else .error .deviceMemory
  else .error .objectHandleInvalid

/-- The branch of `PKCS11PSAGetObjectValue` for a key: PSA is told the size that its type needs. -/
def copyKeyValue (env : ValueEnv) (uxKey : KeyHandle) : Except CkRv ValueCopy :=
  let (uxStatus, attributes, _) := env.getKeyAttributes uxKey
  if uxStatus = psaSuccess then
    let bufferSize := psaExportKeyOutputSize attributes.type attributes.bits.toNat
    let (uxStatus, data) := env.exportKey uxKey bufferSize
    if uxStatus = psaErrorNotPermitted then .ok ⟨[], env.ucGetData, true⟩
    else if uxStatus = psaSuccess then .ok ⟨data, data, false⟩
    else .error .functionFailed
  else .error .functionFailed

/-- What a PAL handle refers to: a certificate or a key, if it has its mark. -/
inductive ObjectSource
  | certificate (uid : Nat)
  | key (uxKey : KeyHandle)

def objectSource (c : P11KeyConfig) (xHandle : ObjectHandle) : Option ObjectSource :=
  if xHandle = eAwsDeviceCertificate then
    if c.xDeviceCertificateMark then some (.certificate psaDeviceCertificateUid) else none
  else if xHandle = eAwsJitpCertificate then
    if c.xJitpCertificateMark then some (.certificate psaJitpCertificateUid) else none
  else if xHandle = eAwsRootCertificate then
    if c.xRootCertificateMark then some (.certificate psaRootCertificateUid) else none
  else if xHandle = eAwsDevicePrivateKey then
    if c.xDevicePrivateKeyMark then some (.key c.uxDevicePrivateKey) else none
  else if xHandle = eAwsDevicePublicKey then
    if c.xDevicePublicKeyMark then some (.key c.uxDevicePublicKey) else none
  else if xHandle = eAwsCodeVerifyingKey then
    if c.xCodeVerifyKeyMark then some (.key c.uxCodeVerifyKey) else none
  else none

/-- `PKCS11PSAGetObjectValue` into a buffer of `capacity` bytes. -/
def copyObjectValue (env : ValueEnv) (capacity : Nat) (c : P11KeyConfig) (xHandle : ObjectHandle) :
    Except CkRv ValueCopy :=
  match objectSource c xHandle with
  | none => .error .objectHandleInvalid
  | some (.certificate uid) => copyCertificateValue env capacity uid
  | some (.key uxKey) => copyKeyValue env uxKey

/-! ## Attributes -/

/-- What one attribute leaves: `xResult`, `ulValueLen`, and the bytes copied to `pValue`. -/
structure AttributeWrite where
  rv : CkRv
  ulValueLen : Nat
  copied : List UInt8

/-- The object that a query is about. -/
structure QueriedObject where
  xPalHandle : ObjectHandle
  pcLabel : List UInt8
  value : ObjectValue

/-- An attribute of four bytes. -/
def ulongWrite (a : CkAttribute) (value : Except CkRv Nat) : AttributeWrite :=
  if a.pValue = none then ⟨.ok, 4, []⟩
  else if a.ulValueLen < 4 then ⟨.bufferTooSmall, a.ulValueLen, []⟩
  else
    match value with
    | .error rv => ⟨rv, a.ulValueLen, []⟩
    | .ok n => ⟨.ok, a.ulValueLen, leBytes 4 n⟩

/-- One attribute of the template. -/
def attributeWrite (env : ValueEnv) (c : P11KeyConfig) (o : QueriedObject) (a : CkAttribute) :
    AttributeWrite :=
  match a.type with
  | .ckaClass =>
    ulongWrite a <|
      match palClass o.xPalHandle with
      | some xClass => .ok xClass
      | none => .error .objectHandleInvalid
  | .ckaValue =>
    if o.value.isPrivate then ⟨.attributeSensitive, ckUnavailableInformation, []⟩
    else if a.pValue = none then ⟨.ok, o.value.pucData.length, []⟩
    else if a.ulValueLen < o.value.pucData.length then ⟨.bufferTooSmall, a.ulValueLen, []⟩
    else ⟨.ok, a.ulValueLen, o.value.pucData⟩
  | .ckaKeyType => ulongWrite a (keyTypeOf env c o.pcLabel)
  | .ckaPrivateExponent => ⟨.attributeSensitive, a.ulValueLen, []⟩
  | .ckaEcParams =>
    -- the length that is compared is the one just written
    if a.pValue = none then ⟨.ok, pkcs11DerEncodedOidP256.length, []⟩
    else ⟨.ok, pkcs11DerEncodedOidP256.length, pkcs11DerEncodedOidP256⟩
  | .ckaEcPoint =>
    if a.pValue = none then ⟨.ok, 67, []⟩
    else if a.ulValueLen < env.ecpPointSize then ⟨.bufferTooSmall, a.ulValueLen, []⟩
    else ⟨.ok, o.value.pucData.length + 2,
      0x04 :: UInt8.ofNat o.value.pucData.length :: o.value.pucData⟩
  | _ => ⟨.attributeTypeInvalid, a.ulValueLen, []⟩

/-- The loop over the template: the result, and what each attribute that it reached left. -/
def attributeWrites (env : ValueEnv) (c : P11KeyConfig) (o : QueriedObject) :
    List CkAttribute → CkRv × List AttributeWrite
  | [] => (.ok, [])
  | a :: as =>
    let w := attributeWrite env c o a
    if w.rv = .ok then
      let (rv, ws) := attributeWrites env c o as
      (rv, w :: ws)
    else (w.rv, [w])

/-- The object of a handle, with its value. -/
def queriedObject (env : ValueEnv) (s : State) (xObject : ObjectHandle) :
    Except CkRv QueriedObject :=
  let (xPalHandle, pcLabel) := prvFindObjectInListByHandle s.xObjectList xObject
  if xPalHandle ≠ ckInvalidHandle then
    match copyObjectValue env pkcs11ObjectMaxSize s.p11KeyConfig xPalHandle with
    | .error e => .error e
    | .ok w => .ok ⟨xPalHandle, pcLabel.getD [], w.value⟩
  else .error .objectHandleInvalid

/-- `C_GetAttributeValue`: the result, and what each attribute that it reached left. -/
def cGetAttributeWrites (env : ValueEnv) (s : State) (xSession : SessionHandle)
    (xObject : ObjectHandle) (template : List CkAttribute) : CkRv × List AttributeWrite :=
  match sessionCheck s xSession with
  | .error e => (e, [])
  | .ok _ =>
    if template = [] then (.argumentsBad, [])
    else
      match queriedObject env s xObject with
      | .error e => (e, [])
      | .ok o => attributeWrites env s.p11KeyConfig o template

end Pkcs11
