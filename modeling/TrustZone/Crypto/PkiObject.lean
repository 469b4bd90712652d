import Mathlib.Data.List.Infix
import TrustZone.Crypto.GenerateKeyPair

/-!
# PKI objects

`PkiObject.c` built for PSA, with what it calls in `PkiObjectPsa.c` and `mbedtls_pk_psa.c`: keys and
certificates are written and read under a label, which names a key of the crypto service or an object
of internal trusted or protected storage. The stores keep what was last written; a write can fail
with any status. Parsing is a parameter: a certificate is its DER, a key context what
`lWritePublicKeyToPSACrypto` reads of it.

A failed assertion does not return. The case of a private key in protected storage runs on into the
default case, and a public key in protected storage is read from internal trusted storage.
-/

namespace Crypto

open Lib Psa

/-! ## Status codes -/

/-- `PkiStatus_t`. -/
inductive PkiStatus
  | success | err | argInvalid | nomem | internal | notImplemented | obj | objNotFound
  | objParsingFailed
  deriving DecidableEq

def mbedtlsErrX509AllocFailed : Int := -0x2880
def mbedtlsErrX509CertUnknownFormat : Int := -0x2780
def mbedtlsErrX509BadInputData : Int := -0x2800
def mbedtlsErrPemBadInputData : Int := -0x1480
def mbedtlsErrPemNoHeaderFooterPresent : Int := -0x1080
def mbedtlsErrErrorCorruptionDetected : Int := -0x6E
def mbedtlsErrErrorGenericError : Int := -0x1

/-- `xPrvMbedtlsErrToPkiStatus`. -/
def xPrvMbedtlsErrToPkiStatus (lError : Int) : PkiStatus :=
  if lError = 0 then .success
  else if lError = mbedtlsErrX509AllocFailed then .nomem
  else if lError = mbedtlsErrErrorCorruptionDetected then .internal
  else if lError = mbedtlsErrX509CertUnknownFormat ∨ lError = mbedtlsErrX509BadInputData ∨
      lError = mbedtlsErrPemBadInputData ∨ lError = mbedtlsErrPemNoHeaderFooterPresent then
    .objParsingFailed
  else if lError < 0 then .err
  else .success

/-! ## Objects -/

/-- `PkiObject_t`: the form with what it needs of the union. -/
inductive PkiObject
  | none
  | pem (pucBuffer : Option (List UInt8))
  | der (pucBuffer : Option (List UInt8))
  | psaCrypto (xPsaCryptoId : Nat)
  | psaIts (xPsaStorageId : Nat)
  | psaPs (xPsaStorageId : Nat)
  deriving DecidableEq

def tlsKeyPrvLabel : List UInt8 := ascii "tls_key_priv"
def tlsKeyPubLabel : List UInt8 := ascii "tls_key_pub"
def tlsCertLabel : List UInt8 := ascii "tls_cert"
def tlsRootCaCertLabel : List UInt8 := ascii "root_ca_cert"
def otaSigningKeyLabel : List UInt8 := ascii "ota_signer_pub"

def psaTlsPrvKeyId : Nat := 0x00000001
def psaTlsPubKeyId : Nat := 0x00000010
def otaSigningKeyId : Nat := 0x00000011
def psaTlsCertId : Nat := 0x5
def psaTlsRootCaCertId : Nat := 0x7

/-- `xPkiObjectFromLabel`. -/
def xPkiObjectFromLabel (pcLabel : List UInt8) : PkiObject :=
  if pcLabel = tlsKeyPrvLabel then .psaCrypto psaTlsPrvKeyId
  else if pcLabel = tlsKeyPubLabel then .psaCrypto psaTlsPubKeyId
  else if pcLabel = tlsCertLabel then .psaPs psaTlsCertId
  else if pcLabel = tlsRootCaCertLabel then .psaPs psaTlsRootCaCertId
  else if pcLabel = otaSigningKeyLabel then .psaCrypto otaSigningKeyId
  else .none

/-! ## Stores -/

/-- A key of the crypto service: its attributes, and what `psa_export_key` and `psa_export_public_key`
give. -/
structure PkiKey where
  attributes : KeyAttributes
  material : List UInt8
  publicKey : List UInt8

/-- The stores of PSA. -/
structure PkiStores where
  keys : Nat → Option PkiKey
  its : Nat → Option (List UInt8)
  ps : Nat → Option (List UInt8)

def psaKeyTypeRawData : KeyType := 0x1001#16
def psaKeyTypeCategoryRaw : KeyType := 0x1000#16
def psaKeyTypeCategorySymmetric : KeyType := 0x2000#16

/-- `PSA_KEY_TYPE_IS_UNSTRUCTURED`. -/
def psaKeyTypeIsUnstructured (type : KeyType) : Bool :=
  type &&& psaKeyTypeCategoryMask == psaKeyTypeCategoryRaw ||
    type &&& psaKeyTypeCategoryMask == psaKeyTypeCategorySymmetric

def psaMaxKeyBits : Nat := 0xfff8

/-- `psa_set_key_bits`. -/
def psaSetKeyBits (bits : Nat) : BitVec 16 :=
  if psaMaxKeyBits < bits then 0xffff else BitVec.ofNat 16 bits

/-- `psa_import_key` of a persistent key, whose attributes give its size. Data of no length is refused,
and so is raw data of another size. -/
def PkiStores.importKey (st : PkiStores) (id : Nat) (attrs : KeyAttributes) (data : List UInt8)
    (fault : Option PsaError) : PkiStores × Status :=
  match fault with
  | some e => (st, e)
  | none =>
    if st.keys id ≠ none then (st, psaErrorAlreadyExists)
    else if data = [] then (st, psaErrorInvalidArgument)
    else if psaKeyTypeIsUnstructured attrs.type ∧ attrs.bits.toNat ≠ 8 * data.length then
      (st, psaErrorInvalidArgument)
    else
      let key : PkiKey := ⟨attrs, data, data⟩
      ({ st with keys := Function.update st.keys id (some key) }, psaSuccess)

/-- `psa_export_key` and `psa_export_public_key` into a buffer of `size` bytes. -/
def exportInto (data : List UInt8) (size : Nat) : Status × List UInt8 :=
  if data.length ≤ size then (psaSuccess, data) else (psaErrorBufferTooSmall, [])

/-- `psa_its_set`. -/
def PkiStores.itsSet (st : PkiStores) (uid : Nat) (data : List UInt8) (fault : Option PsaError) :
    PkiStores × Status :=
  match fault with
  | some e => (st, e)
  | none => ({ st with its := Function.update st.its uid (some data) }, psaSuccess)

/-- `psa_ps_set`. -/
def PkiStores.psSet (st : PkiStores) (uid : Nat) (data : List UInt8) (fault : Option PsaError) :
    PkiStores × Status :=
  match fault with
  | some e => (st, e)
  | none => ({ st with ps := Function.update st.ps uid (some data) }, psaSuccess)

/-! ## mbedTLS -/

/-- `mbedtls_ecp_group_id`. -/
inductive EcpGroupId
  | none | secp192r1 | secp224r1 | secp256r1 | secp384r1 | secp521r1 | bp256r1 | bp384r1 | bp512r1
  | curve25519 | secp192k1 | secp224k1 | secp256k1 | curve448
  deriving DecidableEq

/-- What is read of an `mbedtls_pk_context`: its type, its group, `mbedtls_pk_get_bitlen`, and the point
that `mbedtls_ecp_point_write_binary` writes into a buffer of a size. -/
structure PkContext where
  type : PkType
  grpId : EcpGroupId
  bitlen : Nat
  pointWriteBinary : Nat → Int × List UInt8

/-- What the functions are linked with: mbedTLS and the allocators. Parsing a certificate gives the DER
of the certificate. -/
structure PkiLink where
  pki : PkiEnv
  pvPortMalloc : Nat → Bool
  psaPkCtxAlloc : Bool
  x509CrtParse : Option (List UInt8) → Int × Option (List UInt8)
  x509CrtParseDer : Option (List UInt8) → Int × Option (List UInt8)
  pkParseKey : Option (List UInt8) → Int
  pkParsePublicKey : List UInt8 → Int × PkType

def psaEccFamilyMontgomery : EccFamily := 0x41#8

/-- `xPsaFamilyFromMbedtlsEccGroupId`. -/
def xPsaFamilyFromMbedtlsEccGroupId : EcpGroupId → EccFamily
  | .secp192r1 | .secp224r1 | .secp256r1 | .secp384r1 | .secp521r1 => psaEccFamilySecpR1
  | .bp256r1 | .bp384r1 | .bp512r1 => psaEccFamilyBrainpoolPR1
  | .curve25519 | .curve448 => psaEccFamilyMontgomery
  | .secp192k1 | .secp224k1 | .secp256k1 => psaEccFamilySecpK1
  | .none => 0

/-! ## Keys of the crypto service -/

/-- What `xReadPublicKeyFromPSACrypto` is linked with when it reads the key under `id`. -/
def pkiReadEnv (link : PkiLink) (st : PkiStores) (id : Nat) : PkiEnv :=
  { link.pki with
    getKeyAttributes :=
      match st.keys id with
      | some k => (psaSuccess, k.attributes)
      | none => (psaErrorInvalidHandle, ⟨0, 0⟩)
    exportKey := fun size =>
      match st.keys id with
      | some k => exportInto k.material size
      | none => (psaErrorInvalidHandle, [])
    exportPublicKey := fun size =>
      match st.keys id with
      | some k => exportInto k.publicKey size
      | none => (psaErrorInvalidHandle, []) }

/-- The attributes of a public key. -/
def publicKeyAttributes (pk : PkContext) : KeyAttributes :=
  ⟨psaKeyTypeEccPublicKeyBase ||| (xPsaFamilyFromMbedtlsEccGroupId pk.grpId).setWidth 16,
    psaSetKeyBits pk.bitlen⟩

/-- The size of the buffer for the point. -/
def pointSize (pk : PkContext) : Nat := 2 * (((publicKeyAttributes pk).bits.toNat + 7) / 8) + 1

/-- `lWritePublicKeyToPSACrypto`. -/
def lWritePublicKeyToPSACrypto (link : PkiLink) (st : PkiStores) (xPubKeyId : Nat) (pk : PkContext)
    (fault : Option PsaError) : Option (PkiStores × Int) :=
  if xPubKeyId = 0 then none
  else
    let (st, xStatus) :=
      if pk.type = .eckey then
        if link.pki.calloc (pointSize pk) then
          let (lRslt, point) := pk.pointWriteBinary (pointSize pk)
          if lRslt ≠ 0 then (st, psaErrorGenericError)
          else st.importKey xPubKeyId (publicKeyAttributes pk) point fault
        else (st, psaErrorInsufficientMemory)
      else (st, psaErrorNotSupported)
    some (st, mbedtlsPsaErrTranslatePk xStatus)

def psaKeyIdUserMin : Nat := 0x00000001
def psaKeyIdVendorMax : Nat := 0x7fffffff

/-- `xReadObjectFromPSACrypto`: the export of a raw key. -/
def xReadObjectFromPSACrypto (link : PkiLink) (st : PkiStores) (xObjectId : Nat) :
    Option (Status × Option (List UInt8)) :=
  if psaKeyIdUserMin ≤ xObjectId ∧ xObjectId ≤ psaKeyIdVendorMax then
    match st.keys xObjectId with
    | none => some (psaErrorInvalidHandle, none)
    | some k =>
      if psaKeyTypeIsUnstructured k.attributes.type then
        let uxBufferLen := (k.attributes.bits.toNat + 7) / 8
        if link.pki.calloc uxBufferLen then
          let (xStatus, object) := exportInto k.material uxBufferLen
          if xStatus ≠ psaSuccess then some (xStatus, none)
          else if object = [] then none
          else some (psaSuccess, some object)
        else some (psaErrorInsufficientMemory, none)
      else some (psaErrorInvalidHandle, none)
  else none

/-- `lWriteCertificateToPSACrypto`, with a context. -/
def lWriteCertificateToPSACrypto (st : PkiStores) (xCertId : Nat) (raw : List UInt8)
    (fault : Option PsaError) : Option (PkiStores × Int) :=
  if psaKeyIdUserMin ≤ xCertId ∧ xCertId ≤ psaKeyIdVendorMax then
    let attrs : KeyAttributes := ⟨psaKeyTypeRawData, psaSetKeyBits (8 * raw.length)⟩
    let (st, xStatus) := st.importKey xCertId attrs raw fault
    some (st, mbedtlsPsaErrTranslatePk xStatus)
  else none

/-- `lReadCertificateFromPSACrypto`, with a context. -/
def lReadCertificateFromPSACrypto (link : PkiLink) (st : PkiStores) (xCertId : Nat) :
    Option (Int × Option (List UInt8)) :=
  match xReadObjectFromPSACrypto link st xCertId with
  | none => none
  | some (xStatus, object) =>
    if xStatus = psaSuccess then
      let (xStatus, crt) := link.x509CrtParseDer object
      some (mbedtlsPsaErrTranslatePk xStatus, crt)
    else some (mbedtlsPsaErrTranslatePk xStatus, none)

/-- `lPsa_initMbedtlsPkContext`. -/
def lPsaInitMbedtlsPkContext (link : PkiLink) (st : PkiStores) (xKeyId : Nat) : Option Int :=
  if xKeyId = 0 then some (-1)
  else if link.psaPkCtxAlloc then
    match xReadPublicKeyFromPSACrypto (pkiReadEnv link st xKeyId) with
    | none => none
    | some (xPsaStatus, der, uxPubKeyLen) =>
      if xPsaStatus ≠ psaSuccess then some (mbedtlsPsaErrTranslatePk xPsaStatus)
      else
        let (lError, type) := link.pkParsePublicKey ((der.getD []).take uxPubKeyLen)
        if lError = 0 then if type = .eckey then some 0 else none else some lError
  else some (-1)

/-! ## Objects of the storages -/

/-- `lWriteObjectToPsaIts`. -/
def lWriteObjectToPsaIts (st : PkiStores) (xObjectUid : Nat) (data : List UInt8)
    (fault : Option PsaError) : PkiStores × Int :=
  let (st, xStatus) := st.itsSet xObjectUid data fault
  (st, mbedtlsPsaErrTranslatePk xStatus)

/-- `lWriteObjectToPsaPs`. -/
def lWriteObjectToPsaPs (st : PkiStores) (xObjectUid : Nat) (data : List UInt8)
    (fault : Option PsaError) : PkiStores × Int :=
  let (st, xStatus) := st.psSet xObjectUid data fault
  (st, mbedtlsPsaErrTranslatePk xStatus)

/-- Read an object of a storage. -/
def readObject (link : PkiLink) (store : Nat → Option (List UInt8)) (xObjectUid : Nat) :
    Option (Int × Option (List UInt8)) :=
  if 0 < xObjectUid then
    match store xObjectUid with
    | none => some (mbedtlsPsaErrTranslatePk psaErrorDoesNotExist, none)
    | some data =>
      if link.pki.calloc data.length then some (mbedtlsPsaErrTranslatePk psaSuccess, some data)
      else some (mbedtlsPsaErrTranslatePk psaErrorInsufficientMemory, none)
  else none

/-- `lReadObjectFromPsaIts`. -/
def lReadObjectFromPsaIts (link : PkiLink) (st : PkiStores) (xObjectUid : Nat) :
    Option (Int × Option (List UInt8)) := readObject link st.its xObjectUid

/-- `lReadObjectFromPsaPs`. -/
def lReadObjectFromPsaPs (link : PkiLink) (st : PkiStores) (xObjectUid : Nat) :
    Option (Int × Option (List UInt8)) := readObject link st.ps xObjectUid

/-- `lWriteCertificateToPsaIts`, with a context. -/
def lWriteCertificateToPsaIts (st : PkiStores) (xCertUid : Nat) (raw : List UInt8)
    (fault : Option PsaError) : PkiStores × Int :=
  if raw.length = 0 then (st, mbedtlsPsaErrTranslatePk psaErrorInvalidArgument)
  else lWriteObjectToPsaIts st xCertUid raw fault

/-- `lWriteCertificateToPsaPS`, with a context. -/
def lWriteCertificateToPsaPS (st : PkiStores) (xCertUid : Nat) (raw : List UInt8)
    (fault : Option PsaError) : PkiStores × Int :=
  if raw.length = 0 then (st, mbedtlsPsaErrTranslatePk psaErrorInvalidArgument)
  else lWriteObjectToPsaPs st xCertUid raw fault

def beginCertificate : List UInt8 := ascii "-----BEGIN CERTIFICATE-----"

/-- A blob that is taken for PEM: its last byte is NUL, and the C string that it begins with holds the
header. -/
def looksPem (blob : List UInt8) : Bool :=
  blob.getLast? == some 0 && decide (beginCertificate <:+: cstr blob)

/-- Read a certificate of a storage. -/
def readCertificate (link : PkiLink) (store : Nat → Option (List UInt8)) (xCertUid : Nat) :
    Option (Int × Option (List UInt8)) :=
  match readObject link store xCertUid with
  | none => none
  | some (lError, blob) =>
    if lError = 0 then
      some (if looksPem (blob.getD []) then link.x509CrtParse blob else link.x509CrtParseDer blob)
    else some (lError, none)

/-- `lReadCertificateFromPsaIts`, with a context. -/
def lReadCertificateFromPsaIts (link : PkiLink) (st : PkiStores) (xCertUid : Nat) :
    Option (Int × Option (List UInt8)) := readCertificate link st.its xCertUid

/-- `lReadCertificateFromPsaPS`, with a context. -/
def lReadCertificateFromPsaPS (link : PkiLink) (st : PkiStores) (xCertUid : Nat) :
    Option (Int × Option (List UInt8)) := readCertificate link st.ps xCertUid

/-! ## Dispatch -/

/-- The end of a case: the error becomes the status. -/
def PkiStatus.of {α : Type} : Int × α → PkiStatus × α
  | (lError, x) => (xPrvMbedtlsErrToPkiStatus lError, x)

/-- The end of a case that writes. -/
def PkiStatus.written : PkiStores × Int → PkiStores × PkiStatus
  | (st, lError) => (st, xPrvMbedtlsErrToPkiStatus lError)

/-- `xPkiReadCertificate`: the status, and the certificate that is added to the context. -/
def xPkiReadCertificate (link : PkiLink) (st : PkiStores) :
    PkiObject → Option (PkiStatus × Option (List UInt8))
  | .pem pucBuffer => some (PkiStatus.of (link.x509CrtParse pucBuffer))
  | .der pucBuffer => some (PkiStatus.of (link.x509CrtParseDer pucBuffer))
  | .psaCrypto id => (lReadCertificateFromPSACrypto link st id).map PkiStatus.of
  | .psaIts uid => (lReadCertificateFromPsaIts link st uid).map PkiStatus.of
  | .psaPs uid => (lReadCertificateFromPsaPS link st uid).map PkiStatus.of
  | .none => some (.argInvalid, none)

/-- The switch of `xPkiWriteCertificate`. -/
def writeCertificate (st : PkiStores) (xCertObject : PkiObject) (raw : List UInt8)
    (fault : Option PsaError) : Option (PkiStores × PkiStatus) :=
  match xCertObject with
  | .pem _ => some (st, .argInvalid)
  | .der _ => some (st, .argInvalid)
  | .psaCrypto id => (lWriteCertificateToPSACrypto st id raw fault).map PkiStatus.written
  | .psaIts uid => some (PkiStatus.written (lWriteCertificateToPsaIts st uid raw fault))
  | .psaPs uid => some (PkiStatus.written (lWriteCertificateToPsaPS st uid raw fault))
  | .none => some (st, .argInvalid)

/-- `xPkiWriteCertificate`. -/
def xPkiWriteCertificate (st : PkiStores) (pcCertLabel raw : List UInt8) (fault : Option PsaError) :
    Option (PkiStores × PkiStatus) :=
  writeCertificate st (xPkiObjectFromLabel pcCertLabel) raw fault

/-- The switch of `xPkiWritePubKey`. -/
def writePubKey (link : PkiLink) (st : PkiStores) (xPubKeyObject : PkiObject)
    (pubKeyDer : List UInt8) (pk : PkContext) (fault : Option PsaError) :
    Option (PkiStores × PkiStatus) :=
  match xPubKeyObject with
  | .pem _ => some (st, .argInvalid)
  | .der _ => some (st, .argInvalid)
  | .psaCrypto id => (lWritePublicKeyToPSACrypto link st id pk fault).map PkiStatus.written
  | .psaIts uid => some (PkiStatus.written (lWriteObjectToPsaIts st uid pubKeyDer fault))
  | .psaPs uid => some (PkiStatus.written (lWriteObjectToPsaPs st uid pubKeyDer fault))
  | .none => some (st, .argInvalid)

/-- `xPkiWritePubKey`. -/
def xPkiWritePubKey (link : PkiLink) (st : PkiStores) (pcPubKeyLabel pubKeyDer : List UInt8)
    (pk : PkContext) (fault : Option PsaError) : Option (PkiStores × PkiStatus) :=
  writePubKey link st (xPkiObjectFromLabel pcPubKeyLabel) pubKeyDer pk fault

/-- A private key in a buffer. -/
def readPrivateBuffer (link : PkiLink) : Option (List UInt8) → PkiStatus
  | none => .argInvalid
  | some [] => .argInvalid
  | some blob => xPrvMbedtlsErrToPkiStatus (link.pkParseKey (some blob))

/-- A private key that is read from a storage. -/
def readPrivateBlob (link : PkiLink) : Option (Int × Option (List UInt8)) → Option PkiStatus
  | none => none
  | some (lError, pucPk) =>
    let lError := if lError = 0 then link.pkParseKey pucPk else lError
    if pucPk = some [] then none else some (xPrvMbedtlsErrToPkiStatus lError)

/-- `xPkiReadPrivateKey`. -/
def xPkiReadPrivateKey (link : PkiLink) (st : PkiStores) : PkiObject → Option PkiStatus
  | .pem pucBuffer => some (readPrivateBuffer link pucBuffer)
  | .der pucBuffer => some (readPrivateBuffer link pucBuffer)
  | .psaCrypto id => (lPsaInitMbedtlsPkContext link st id).map xPrvMbedtlsErrToPkiStatus
  | .psaIts uid => readPrivateBlob link (lReadObjectFromPsaIts link st uid)
  | .psaPs uid =>
    -- without a `break`, the default case sets the status again
    (readPrivateBlob link (lReadObjectFromPsaPs link st uid)).map fun _ => .argInvalid
  | .none => some .argInvalid

/-- A public key in a buffer is copied. The block is not checked. -/
def copyPublicKey (link : PkiLink) :
    Option (List UInt8) → Option (PkiStatus × Option (List UInt8) × Nat)
  | none => some (.argInvalid, none, 0)
  | some [] => some (.argInvalid, none, 0)
  | some der => if link.pvPortMalloc der.length then some (.success, some der, der.length) else none

/-- A public key that is read from a storage. -/
def readPublicBlob (r : Int × Option (List UInt8)) : PkiStatus × Option (List UInt8) × Nat :=
  (xPrvMbedtlsErrToPkiStatus r.1, r.2, (r.2.getD []).length)

/-- `xPkiReadPublicKeyDer`, with pointers that are not `NULL`: the status, `*ppucPubKeyDer` and
`*puxPubKeyDerLen`. -/
def xPkiReadPublicKeyDer (link : PkiLink) (st : PkiStores) :
    PkiObject → Option (PkiStatus × Option (List UInt8) × Nat)
  | .pem pucBuffer => copyPublicKey link pucBuffer
  | .der pucBuffer => copyPublicKey link pucBuffer
  | .psaCrypto id => (xReadPublicKeyFromPSACrypto (pkiReadEnv link st id)).map PkiStatus.of
  | .psaIts uid => (lReadObjectFromPsaIts link st uid).map readPublicBlob
  | .psaPs uid => (lReadObjectFromPsaIts link st uid).map readPublicBlob
  | .none => some (.argInvalid, none, 0)

end Crypto
