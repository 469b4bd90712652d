import TrustZone.Crypto.PsaUtil
import TrustZone.Pkcs11.CorePkcs11

/-!
# PKCS#11 objects and signatures for mbedTLS

`prvASN1WriteBigIntFromOctetStr` and `prvEcdsaSigToASN1InPlace` of `mbedtls_pk_pkcs11.c`, and its functions
that read and write certificates and public keys. The former write into a temporary buffer of
`MBEDTLS_ECDSA_MAX_LEN` bytes, which is a parameter; pointers into it are offsets. The latter call a
PKCS#11 module, the allocator and mbedTLS, whose answers are parameters; a failed assertion and a
`NULL` that is read do not return.
-/

namespace Crypto

open Lib Pkcs11

/-! ## Signatures -/

/-- `prvASN1WriteBigIntFromOctetStr`. With no room for the octets it returns 0. -/
def prvASN1WriteBigIntFromOctetStr (a : Asn1Write) (buf : List UInt8) (start p : Nat)
    (pucOctetStr : List UInt8) : BackWrite :=
  let uxRequiredLen :=
    if pucOctetStr.getD 0 0 > 0x7F then pucOctetStr.length + 1 else pucOctetStr.length
  if start + uxRequiredLen ≤ p then
    let p := p - pucOctetStr.length
    let buf := blit buf p pucOctetStr
    let (p, buf) := if pucOctetStr.getD 0 0 > 0x7F then (p - 1, blit buf (p - 1) [0]) else (p, buf)
    let w := a.writeLen buf start p uxRequiredLen
    if 0 < w.ret then
      let uxRequiredLen := uxRequiredLen + w.ret.toNat
      let w := a.writeTag w.buf start w.p Der.tagInteger
      if 0 < w.ret then { w with ret := w.ret + uxRequiredLen } else w
    else w
  else ⟨0, p, buf⟩

/-- `if( lReturn > 0 ) { uxLen += lReturn; .. }`: go on, or stop with the last result. -/
def ifCounted (w : BackWrite) (uxLen : Nat) (k : Nat → Nat → List UInt8 → BackWrite × Nat) :
    BackWrite × Nat :=
  if 0 < w.ret then k (uxLen + w.ret.toNat) w.p w.buf else (w, uxLen)

/-- The writes of `prvEcdsaSigToASN1InPlace`, `s` first: the last result and `uxLen`. -/
def writeRawSignature (a : Asn1Write) (maxLen : Nat) (r s : List UInt8) : BackWrite × Nat :=
  ifCounted (prvASN1WriteBigIntFromOctetStr a (List.replicate maxLen 0) 0 maxLen s) 0
    fun uxLen p buf =>
      ifCounted (prvASN1WriteBigIntFromOctetStr a buf 0 p r) uxLen fun uxLen p buf =>
        ifCounted (a.writeLen buf 0 p uxLen) uxLen fun uxLen p buf =>
          let w := a.writeTag buf 0 p Der.tagSequence
          ifCounted w uxLen fun uxLen _ _ => (w, uxLen)

/-- `prvEcdsaSigToASN1InPlace`: the result, `*pxSigLen` and the buffer. It does not return when the
buffer is no longer than the raw form. -/
def prvEcdsaSigToASN1InPlace (a : Asn1Write) (maxLen : Nat) (pucSig : List UInt8)
    (xSigBufferSize sigLen : Nat) : Option (Int × Nat × List UInt8) :=
  if sigLen < xSigBufferSize then
    let xComponentLen := sigLen / 2
    let (w, uxLen) := writeRawSignature a maxLen (pucSig.take xComponentLen)
      ((pucSig.drop xComponentLen).take xComponentLen)
    if 0 < w.ret ∧ uxLen ≤ xSigBufferSize then
      some (0, uxLen, blit pucSig 0 ((w.buf.drop w.p).take uxLen))
    else some (-1, sigLen, pucSig)
  else none

/-! ## Objects -/

/-- A search, by one call of `xFindObjectWithLabelAndClass` that starts with the handle zero. -/
def findObject (find : FindCalls Unit) : Option (Rv × ObjectHandle) :=
  (xFindObjectWithLabelAndClass find () ckInvalidHandle).map fun (xResult, h, _) => (xResult, h)

/-- How the calls of `lReadCertificateFromPKCS11` answer. The parser leaves its result and a context. -/
structure ReadCertCalls (χ : Type) where
  getFunctionList : Rv
  find : FindCalls Unit
  getAttributeValue : ObjectHandle → CkAttribute → Option (Rv × CkAttribute)
  calloc : Nat → Bool
  x509CrtParse : List UInt8 → Int × χ

/-- `lReadCertificateFromPKCS11`: its result, and the context. The results set for a failed
`C_GetFunctionList` and for an object that is not found are overwritten; with a list that is `NULL` it
does not return, once the search has succeeded. -/
def lReadCertificateFromPKCS11 {χ : Type} (c : ReadCertCalls χ) (crt : χ)
    (xP11SessionHandle : SessionHandle) : Option (Int × χ) :=
  if xP11SessionHandle = none then none
  else
    match findObject c.find with
    | none => none
    | some (xResult, xCertObj) =>
      if xResult ≠ ckrOk then some (xResult.toInt, crt)
      else if c.getFunctionList ≠ ckrOk then none
      else
        match c.getAttributeValue xCertObj ⟨.ckaValue, none, 0⟩ with
        | none => none
        | some (xResult, xTemplate) =>
          if xResult ≠ ckrOk then some (xResult.toInt, crt)
          else if c.calloc xTemplate.ulValueLen then
            match c.getAttributeValue xCertObj
                { xTemplate with pValue := some (List.replicate xTemplate.ulValueLen 0) } with
            | none => none
            | some (xResult, xTemplate) =>
              if xResult ≠ ckrOk then some (xResult.toInt, crt)
              else xTemplate.bytes.map c.x509CrtParse
          else some (ckrHostMemory.toInt, crt)

/-- How the calls of `lWriteCertificateToPKCS11` answer. -/
structure WriteCertCalls where
  getFunctionList : Rv
  find : FindCalls Unit
  destroyObject : ObjectHandle → Rv
  createObject : List CkAttribute → Rv

/-- Look for an object, and destroy it if there is one. -/
def destroyFound (getFunctionList : Rv) (find : FindCalls Unit) (destroyObject : ObjectHandle → Rv) :
    Option Rv :=
  if getFunctionList ≠ ckrOk then some getFunctionList
  else
    (findObject find).map fun (xResult, h) =>
      if xResult = ckrOk ∧ h ≠ ckInvalidHandle then destroyObject h else xResult

/-- `return( ( xResult == CKR_OK ) ? 0 : -1 );` -/
def zeroIfOk (xResult : Rv) : Int := if xResult = ckrOk then 0 else -1

/-- The template of a certificate. -/
def certificateTemplate (label raw : List UInt8) : List CkAttribute :=
  [⟨.ckaClass, some (leBytes 4 ckoCertificate), 4⟩, ⟨.ckaLabel, some label, label.length⟩,
    ⟨.ckaCertificateType, some (leBytes 4 ckcX509), 4⟩, ⟨.ckaToken, some [ckTrue], 1⟩,
    ⟨.ckaValue, some raw, raw.length⟩]

/-- `lWriteCertificateToPKCS11`. -/
def lWriteCertificateToPKCS11 (c : WriteCertCalls) (raw : List UInt8)
    (xP11SessionHandle : SessionHandle) (label : List UInt8) : Option Int :=
  if raw = [] ∨ xP11SessionHandle = none ∨ label = [] then none
  else
    (destroyFound c.getFunctionList c.find c.destroyObject).map fun xResult =>
      zeroIfOk <|
        if xResult = ckrOk then c.createObject (certificateTemplate label raw) else xResult

def mbedtlsErrEcpBufferTooSmall : Int := -0x4F00

/-- What `lWriteEcPublicKeyToPKCS11` reads of an `mbedtls_pk_context`: whether it is an EC key, and
`mbedtls_ecp_point_write_binary` into a buffer of a size (the result, `*olen` and the bytes). -/
structure EcPublicKey where
  isEckey : Bool
  pointWriteBinary : Nat → Int × Nat × List UInt8

/-- The point of a key, as an octet string: `pucEcPoint` and `uxEcPointLength`. -/
def exportEcPoint (calloc : Nat → Bool) (pk : EcPublicKey) : Except Rv (List UInt8 × Nat) :=
  if pk.isEckey then
    let (lRslt, uxEcPointLength, _) := pk.pointWriteBinary 0
    if lRslt = mbedtlsErrEcpBufferTooSmall ∨ lRslt = 0 then
      if calloc (uxEcPointLength + 2) then
        if uxEcPointLength ≤ 255 then
          let (lRslt, olen, point) := pk.pointWriteBinary uxEcPointLength
          if lRslt ≠ 0 then .error ckrFunctionFailed
          else
            .ok (0x04 :: UInt8.ofNat uxEcPointLength ::
              blit (List.replicate uxEcPointLength 0) 0 point, olen + 2)
        else .error ckrFunctionFailed
      else .error ckrHostMemory
    else .error ckrFunctionFailed
  else .error ckrFunctionNotSupported

/-- The template of a public key. -/
def ecPublicKeyTemplate (label pucEcPoint : List UInt8) (uxEcPointLength : Nat) : List CkAttribute :=
  [⟨.ckaClass, some (leBytes 4 ckoPublicKey), 4⟩, ⟨.ckaKeyType, some (leBytes 4 ckkEc), 4⟩,
    ⟨.ckaLabel, some label, label.length⟩, ⟨.ckaToken, some [ckTrue], 1⟩,
    ⟨.ckaEcParams, some pkcs11DerEncodedOidP256, pkcs11DerEncodedOidP256.length⟩,
    ⟨.ckaVerify, some [ckTrue], 1⟩, ⟨.ckaEcPoint, some pucEcPoint, uxEcPointLength⟩]

/-- `lWriteEcPublicKeyToPKCS11`. -/
def lWriteEcPublicKeyToPKCS11 (c : WriteCertCalls) (calloc : Nat → Bool) (pk : EcPublicKey)
    (xP11SessionHandle : SessionHandle) (label : List UInt8) : Option Int :=
  if xP11SessionHandle = none ∨ label = [] then none
  else
    (destroyFound c.getFunctionList c.find c.destroyObject).map fun xResult =>
      zeroIfOk <|
        if xResult = ckrOk then
          match exportEcPoint calloc pk with
          | .error e => e
          | .ok (pucEcPoint, uxEcPointLength) =>
            c.createObject (ecPublicKeyTemplate label pucEcPoint uxEcPointLength)
        else xResult

end Crypto
