import TrustZone.Crypto.MbedtlsPkPkcs11
import TrustZone.Crypto.PkiObject

/-!
# PKI objects in a PKCS#11 module

`PkiObjectPkcs11.c`: certificates and public keys that are written to, read from and generated in a
PKCS#11 module. The answers of the module, of corePKCS11's `xInitializePkcs11Session`, of the allocator
and of the parser are parameters, one for each call.
-/

namespace Crypto

open Lib Pkcs11

/-- `xPrvCkRvToPkiStatus`. -/
def xPrvCkRvToPkiStatus (xError : Rv) : PkiStatus :=
  if xError = ckrOk then .success
  else if xError = ckrObjectHandleInvalid then .objNotFound
  else if xError = ckrHostMemory then .nomem
  else if xError = ckrFunctionFailed then .internal
  else .err

/-! ## Stages -/

/-- How the calls of `xPrvExportPubKeyDer` answer. -/
structure ExportCalls where
  getFunctionList : Rv
  getAttributeValue : ObjectHandle → CkAttribute → Option (Rv × CkAttribute)
  pvPortMalloc : Nat → Bool

/-- `pucEcP256AsnAndOid`. -/
def pucEcP256AsnAndOid : List UInt8 :=
  [0x30, 0x59, 0x30, 0x13, 0x06, 0x07, 0x2a, 0x86, 0x48, 0xce, 0x3d, 0x02, 0x01, 0x06, 0x08, 0x2a,
    0x86, 0x48, 0xce, 0x3d, 0x03, 0x01, 0x07, 0x03, 0x42, 0x00]

/-- `pucUnusedKeyTag`. -/
def pucUnusedKeyTag : List UInt8 := [0x04, 0x41]

/-- `xPrvExportPubKeyDer`. The attribute is read behind the place of the header, which is then copied
over its first two bytes; a block that is shorter than the header is written out of bounds. -/
def xPrvExportPubKeyDer (c : ExportCalls) (xPublicKeyHandle : ObjectHandle) :
    Option (Rv × DerOut) :=
  if c.getFunctionList ≠ ckrOk then some (ckrHostMemory, ⟨none, 0⟩)
  else
    match c.getAttributeValue xPublicKeyHandle ⟨.ckaEcPoint, none, 0⟩ with
    | none => none
    | some (xResult, xTemplate) =>
      let pulPubKeyDerLen :=
        (xTemplate.ulValueLen + pucEcP256AsnAndOid.length - pucUnusedKeyTag.length + 1) % 2 ^ 32
      if xResult = ckrOk ∧ c.pvPortMalloc pulPubKeyDerLen then
        if pulPubKeyDerLen < pucEcP256AsnAndOid.length then none
        else
          let off := pucEcP256AsnAndOid.length - pucUnusedKeyTag.length
          let der := List.replicate pulPubKeyDerLen (0 : UInt8)
          match c.getAttributeValue xPublicKeyHandle
              { xTemplate with pValue := some (der.drop off) } with
          | none => none
          | some (xResult, xTemplate) =>
            let der := blit (der.take off ++ xTemplate.pValue.getD []) 0 pucEcP256AsnAndOid
            if xResult ≠ ckrOk then some (xResult, ⟨none, 0⟩)
            else some (xResult, ⟨some der, pulPubKeyDerLen⟩)
      else some (ckrHostMemory, ⟨none, 0⟩)

/-- How the calls of `xPrvDestoryObject` answer. -/
structure DestroyCalls where
  getFunctionList : Rv
  find : FindCalls Unit
  destroyObject : ObjectHandle → Rv

/-- `xPrvDestoryObject`. -/
def xPrvDestoryObject (c : DestroyCalls) (xSessionHandle : SessionHandle) (label : List UInt8) :
    Option Rv :=
  if xSessionHandle = none ∨ label = [] then none
  else destroyFound c.getFunctionList c.find c.destroyObject

/-! ## Writing -/

/-- `strnlen` and `strncpy`: the part of a label that counts. -/
def labelBuffer (pcLabel : List UInt8) : List UInt8 := pcLabel.take pkcs11configMaxLabelLength

/-- How the calls of `xPkcs11WriteCertificate` and `xPkcs11WritePubKey` answer. -/
structure WriteCalls where
  getFunctionList : Rv
  initializePkcs11Session : Rv × SessionHandle
  destroy : DestroyCalls
  write : WriteCertCalls
  calloc : Nat → Bool
  closeSession : Rv

/-- `xPkcs11WriteCertificate` and `xPkcs11WritePubKey`, around the function that writes. The result of
`C_CloseSession` is not looked at. -/
def writeObject (c : WriteCalls) (pcLabel : Option (List UInt8)) (context : Bool)
    (write : SessionHandle → List UInt8 → Option Int) : Option PkiStatus :=
  match pcLabel with
  | none => some .argInvalid
  | some pcLabel =>
    let label := labelBuffer pcLabel
    if context = false ∨ label = [] then some .argInvalid
    else if c.getFunctionList ≠ ckrOk then some (xPrvCkRvToPkiStatus c.getFunctionList)
    else
      let (xResult, xSession) := c.initializePkcs11Session
      if xResult ≠ ckrOk then some (xPrvCkRvToPkiStatus xResult)
      else
        match xPrvDestoryObject c.destroy xSession label with
        | none => none
        | some xResult =>
          if xResult ≠ ckrOk then some (xPrvCkRvToPkiStatus xResult)
          else (write xSession label).map xPrvMbedtlsErrToPkiStatus

/-- `xPkcs11WriteCertificate`; `none` is `NULL`. -/
def xPkcs11WriteCertificate (c : WriteCalls) (pcLabel raw : Option (List UInt8)) : Option PkiStatus :=
  writeObject c pcLabel raw.isSome (lWriteCertificateToPKCS11 c.write (raw.getD []))

/-- `xPkcs11WritePubKey`. -/
def xPkcs11WritePubKey (c : WriteCalls) (pcLabel : Option (List UInt8)) (pk : Option EcPublicKey) :
    Option PkiStatus :=
  writeObject c pcLabel pk.isSome
    (lWriteEcPublicKeyToPKCS11 c.write c.calloc (pk.getD ⟨false, fun _ => (0, 0, [])⟩))

/-! ## Reading -/

/-- How the calls of `xPkcs11ReadCertificate` answer; `crtInit` is what `mbedtls_x509_crt_init` leaves. -/
structure ReadCertificateCalls (χ : Type) where
  getFunctionList : Rv
  initializePkcs11Session : Rv × SessionHandle
  crtInit : χ
  read : ReadCertCalls χ
  closeSession : Rv

/-- `xPkcs11ReadCertificate`: its result, and the context. The result of `C_CloseSession` is not looked
at. -/
def xPkcs11ReadCertificate {χ : Type} (c : ReadCertificateCalls χ) (crt : Option χ)
    (pcLabel : Option (List UInt8)) : Option (PkiStatus × Option χ) :=
  match pcLabel, crt with
  | some pcLabel, some _ =>
    if labelBuffer pcLabel = [] then some (.argInvalid, crt)
    else if c.getFunctionList ≠ ckrOk then some (xPrvCkRvToPkiStatus c.getFunctionList, crt)
    else
      let (xResult, xSession) := c.initializePkcs11Session
      if xResult ≠ ckrOk then some (xPrvCkRvToPkiStatus xResult, crt)
      else
        (lReadCertificateFromPKCS11 c.read c.crtInit xSession).map fun (lRslt, crt) =>
          (xPrvMbedtlsErrToPkiStatus lRslt, some crt)
  | _, _ => some (.argInvalid, crt)

/-- How the calls of `xPkcs11ReadPublicKey` answer. -/
structure ReadPublicKeyCalls where
  getFunctionList : Rv
  initializePkcs11Session : Rv × SessionHandle
  find : FindCalls Unit
  exporter : ExportCalls
  closeSession : Rv

/-- The stages of `xPkcs11ReadPublicKey` in a session: the status, and the outputs. -/
def readPublicKey (c : ReadPublicKeyCalls) (out : DerOut) : Option (PkiStatus × DerOut) :=
  match findObject c.find with
  | none => none
  | some (xResult, xPubKeyHandle) =>
    if xPrvCkRvToPkiStatus xResult = .success then
      (xPrvExportPubKeyDer c.exporter xPubKeyHandle).map fun (xResult, der) =>
        let xStatus := xPrvCkRvToPkiStatus xResult
        (xStatus, if xStatus = .success then der else { der with puxPubKeyDerLen := out.puxPubKeyDerLen })
    else some (xPrvCkRvToPkiStatus xResult, out)

/-- `xPkcs11ReadPublicKey`, with output pointers that are not `NULL` and `out` what they point to. The
status is that of `C_CloseSession` once there is a session. -/
def xPkcs11ReadPublicKey (c : ReadPublicKeyCalls) (out : DerOut)
    (pcPubKeyLabel : Option (List UInt8)) : Option (PkiStatus × DerOut) :=
  match pcPubKeyLabel with
  | none => some (.argInvalid, out)
  | some label =>
    if label = [] ∨ pkcs11configMaxLabelLength < label.length then some (.argInvalid, out)
    else if xPrvCkRvToPkiStatus c.getFunctionList ≠ .success then
      some (xPrvCkRvToPkiStatus c.getFunctionList, out)
    else
      let (xResult, xSession) := c.initializePkcs11Session
      let r :=
        if xPrvCkRvToPkiStatus xResult = .success then readPublicKey c out
        else some (xPrvCkRvToPkiStatus xResult, out)
      r.map fun (xStatus, out) =>
        (if xSession = none then xStatus else xPrvCkRvToPkiStatus c.closeSession, out)

/-! ## Generating -/

/-- How the calls of `xPkcs11GenerateKeyPairEC` answer; `C_GenerateKeyPair` gets the two templates. -/
structure GenerateCalls where
  getFunctionList : Rv
  initializePkcs11Session : Rv × SessionHandle
  destroyPrv : DestroyCalls
  destroyPub : DestroyCalls
  generateKeyPair : List CkAttribute → List CkAttribute → Rv × ObjectHandle × ObjectHandle
  exporter : ExportCalls
  closeSession : Rv

/-- `xPublicKeyTemplate`. -/
def xPublicKeyTemplate (label : List UInt8) : List CkAttribute :=
  [⟨.ckaKeyType, some (leBytes 4 ckkEc), 4⟩, ⟨.ckaVerify, some [ckTrue], 1⟩,
    ⟨.ckaEcParams, some pkcs11DerEncodedOidP256, pkcs11DerEncodedOidP256.length⟩,
    ⟨.ckaLabel, some label, label.length⟩]

/-- `xPrivateKeyTemplate`. -/
def xPrivateKeyTemplate (label : List UInt8) : List CkAttribute :=
  [⟨.ckaKeyType, some (leBytes 4 ckkEc), 4⟩, ⟨.ckaToken, some [ckTrue], 1⟩,
    ⟨.ckaPrivate, some [ckTrue], 1⟩, ⟨.ckaSign, some [ckTrue], 1⟩,
    ⟨.ckaLabel, some label, label.length⟩]

/-- The stages of `xPkcs11GenerateKeyPairEC` in a session: the result, and the outputs. -/
def generateKeyPair (c : GenerateCalls) (prv pub : List UInt8) (xSession : SessionHandle)
    (out : DerOut) : Option (Rv × DerOut) :=
  match xPrvDestoryObject c.destroyPrv xSession prv with
  | none => none
  | some xResult =>
    if xResult ≠ ckrOk then some (xResult, out)
    else
      match xPrvDestoryObject c.destroyPub xSession pub with
      | none => none
      | some xResult =>
        if xResult ≠ ckrOk then some (xResult, out)
        else
          let (xResult, xPubKeyHandle, _) :=
            c.generateKeyPair (xPublicKeyTemplate pub) (xPrivateKeyTemplate prv)
          if xResult ≠ ckrOk then some (xResult, out)
          else if xPubKeyHandle = ckInvalidHandle then none
          else
            (xPrvExportPubKeyDer c.exporter xPubKeyHandle).map fun (xResult, der) =>
              (xResult, if xResult = ckrOk then der
                else { der with puxPubKeyDerLen := out.puxPubKeyDerLen })

/-- `xPkcs11GenerateKeyPairEC`, with pointers that are not `NULL` and `out` what the output pointers
point to. The result of `C_CloseSession` is not looked at. -/
def xPkcs11GenerateKeyPairEC (c : GenerateCalls) (pcPrivateKeyLabel pcPublicKeyLabel : List UInt8)
    (out : DerOut) : Option (PkiStatus × DerOut) :=
  let prv := labelBuffer pcPrivateKeyLabel
  let pub := labelBuffer pcPublicKeyLabel
  if prv = [] ∨ pub = [] then none
  else if c.getFunctionList ≠ ckrOk then some (xPrvCkRvToPkiStatus c.getFunctionList, out)
  else
    let (xResult, xSession) := c.initializePkcs11Session
    if xResult ≠ ckrOk then some (xPrvCkRvToPkiStatus xResult, out)
    else
      (generateKeyPair c prv pub xSession out).map fun (xResult, out) =>
        (xPrvCkRvToPkiStatus xResult, out)

end Crypto
