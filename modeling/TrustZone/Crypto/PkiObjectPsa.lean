import TrustZone.Crypto.PsaUtil

/-!
# Reading a public key from PSA

`xReadPublicKeyFromPSACrypto` of `PkiObjectPsa.c`: the exported key is moved to the end of a buffer, the
rest of a `SubjectPublicKeyInfo` is written before it, and the whole is moved to the start. Counts
of bytes and error codes share one variable, which `mbedtls_to_psa_error` turns into the status.
-/

namespace Crypto

open Lib Psa

/-- `mbedtls_pk_type_t`, the values in use. -/
inductive PkType
  | none | eckey | rsa
  deriving DecidableEq

/-- The type and the size of a key. -/
structure KeyAttributes where
  type : KeyType
  bits : BitVec 16

/-- What the function is linked with: PSA, the allocator, mbedTLS with its configuration. -/
structure PkiEnv where
  getKeyAttributes : Status × KeyAttributes
  exportKey : Nat → Status × List UInt8
  exportPublicKey : Nat → Status × List UInt8
  calloc : Nat → Bool
  asn1 : Asn1Write
  oidByPkAlg : PkType → Int × Option (List UInt8)
  eccEnabled : EccFamily → Nat → Bool
  ecpMaxBytes : Nat
  mpiMaxSize : Nat

def ecpPubDerMaxBytes (env : PkiEnv) : Nat := 30 + 2 * env.ecpMaxBytes

def rsaPubDerMaxBytes (env : PkiEnv) : Nat := 38 + 2 * env.mpiMaxSize

def mbedtlsErrPkFeatureUnavailable : Int := -0x3980

/-- A `psa_status_t` that ends the row of steps, or what goes into the next step. -/
def proceed {α : Type} (xStatus : Status) (x : α) : Except Status α :=
  if xStatus = psaSuccess then .ok x else .error xStatus

/-- The variables between two steps. -/
structure DerState where
  pucAsn1WritePtr : Nat
  buf : List UInt8
  uxObjLen : Nat
  uxBytesWritten : Nat

/-- The size of the buffer, by the type of the key. -/
def pubKeyDerLen (env : PkiEnv) (type : KeyType) : Option Nat :=
  if psaKeyTypeIsEcc type then some (ecpPubDerMaxBytes env)
  else if psaKeyTypeIsRsa type then some (rsaPubDerMaxBytes env)
  else none

/-- The export that fits the category of the key, into a buffer of a size. -/
def exportPublic (env : PkiEnv) (type : KeyType) (size : Nat) : Status × List UInt8 :=
  if psaKeyTypeIsPublicKey type then env.exportKey size
  else if psaKeyTypeIsKeyPair type then env.exportPublicKey size
  else (psaErrorInvalidHandle, [])

/-- Export the key, move it to the end of the buffer and put the null byte before it. The byte is
put before the start of the buffer when the export fails (`none`). -/
def exportStep (env : PkiEnv) (attrs : KeyAttributes) (size : Nat) :
    Option (Except Status DerState) :=
  if size < psaExportPublicKeyOutputSize attrs.type attrs.bits.toNat + 1 then
    some (.error psaErrorBufferTooSmall)
  else
    let (xStatus, key) := exportPublic env attrs.type size
    if xStatus = psaSuccess then
      let exported := blit (List.replicate size 0) 0 key
      let p := size - key.length
      let moved := blit exported p key
      if 1 ≤ p then
        some (.ok ⟨p - 1, blit moved (p - 1) [0], key.length + 1, key.length + 1⟩)
      else none
    else none

/-- The length and the tag of the public key object: each result above zero is a count. -/
def countStep (w : BackWrite) (s : DerState) : Except Status DerState :=
  if 0 < w.ret then
    .ok { s with pucAsn1WritePtr := w.p, buf := w.buf,
                 uxBytesWritten := s.uxBytesWritten + w.ret.toNat }
  else proceed (mbedtlsToPsaError w.ret) { s with pucAsn1WritePtr := w.p, buf := w.buf }

/-- The parameters of the algorithm: the curve, or none for RSA. -/
def paramsStep (env : PkiEnv) (attrs : KeyAttributes) (s : DerState) :
    Except Status (PkType × DerState) :=
  let s := { s with uxObjLen := 0 }
  if psaKeyTypeIsEcc attrs.type then
    let (lRslt, oid) := mbedtlsPsaGetEccOidFromId env.eccEnabled (psaKeyTypeEccGetFamily attrs.type)
      attrs.bits.toNat
    match oid with
    | none => proceed (mbedtlsToPsaError mbedtlsErrPkFeatureUnavailable) (.eckey, s)
    | some oid =>
      if lRslt = 0 then
        let w := env.asn1.writeOid s.buf 0 s.pucAsn1WritePtr oid
        let uxObjLen := if 0 < w.ret then w.ret.toNat else 0
        proceed (mbedtlsToPsaError w.ret)
          (.eckey, { s with pucAsn1WritePtr := w.p, buf := w.buf, uxObjLen := uxObjLen })
      else proceed (mbedtlsToPsaError lRslt) (.eckey, s)
  else if psaKeyTypeIsRsa attrs.type then proceed (mbedtlsToPsaError 0) (.rsa, s)
  else proceed (mbedtlsToPsaError mbedtlsErrPkFeatureUnavailable) (.none, s)

/-- The algorithm, and the end of the `AlgorithmIdentifier`. -/
def algorithmStep (env : PkiEnv) (xPkType : PkType) (s : DerState) : Except Status DerState :=
  let (lRslt, oid) := env.oidByPkAlg xPkType
  match oid with
  | none => proceed (mbedtlsToPsaError mbedtlsErrPkFeatureUnavailable) s
  | some oid =>
    if oid.length = 0 then proceed (mbedtlsToPsaError mbedtlsErrPkFeatureUnavailable) s
    else if lRslt = 0 then
      let w := env.asn1.writeAlgorithmIdentifier s.buf 0 s.pucAsn1WritePtr oid s.uxObjLen
      let uxBytesWritten := if 0 < w.ret then s.uxBytesWritten + w.ret.toNat else s.uxBytesWritten
      proceed (mbedtlsToPsaError w.ret)
        { s with pucAsn1WritePtr := w.p, buf := w.buf, uxBytesWritten := uxBytesWritten }
    else proceed (mbedtlsToPsaError lRslt) s

/-- The length and the tag of the `SubjectPublicKeyInfo`. A length of no bytes fails an assertion. -/
def closeStep (env : PkiEnv) (s : DerState) : Option (Except Status DerState) :=
  let w := env.asn1.writeLen s.buf 0 s.pucAsn1WritePtr s.uxBytesWritten
  if w.ret = 0 then none
  else if 0 < w.ret then
    let uxBytesWritten := s.uxBytesWritten + w.ret.toNat
    let w' := env.asn1.writeTag w.buf 0 w.p Der.tagSequence
    let uxBytesWritten := if 0 < w'.ret then uxBytesWritten + w'.ret.toNat else uxBytesWritten
    some (proceed (mbedtlsToPsaError w'.ret)
      { s with pucAsn1WritePtr := w'.p, buf := w'.buf, uxBytesWritten := uxBytesWritten })
  else some (proceed (mbedtlsToPsaError w.ret) { s with pucAsn1WritePtr := w.p, buf := w.buf })

/-- The steps between the export and the move. -/
def writeSteps (env : PkiEnv) (attrs : KeyAttributes) (s : DerState) :
    Option (Except Status DerState) :=
  let row : Except Status DerState := do
    let s ← countStep (env.asn1.writeLen s.buf 0 s.pucAsn1WritePtr s.uxObjLen) s
    let s ← countStep (env.asn1.writeTag s.buf 0 s.pucAsn1WritePtr Der.tagBitString) s
    let (xPkType, s) ← paramsStep env attrs s
    algorithmStep env xPkType s
  match row with
  | .error xStatus => some (.error xStatus)
  | .ok s => closeStep env s

/-- `xReadPublicKeyFromPSACrypto`, with pointers that are not `NULL`: the status, `*ppucPubKeyDer` and
`*puxPubDerKeyLen`. It does not return when an assertion fails, nor when it writes out of bounds. -/
def xReadPublicKeyFromPSACrypto (env : PkiEnv) : Option (Status × Option (List UInt8) × Nat) :=
  let (xStatus, attrs) := env.getKeyAttributes
  if xStatus = psaSuccess then
    match pubKeyDerLen env attrs.type with
    | none => some (psaErrorInsufficientMemory, none, 0)
    | some size =>
      if env.calloc size then
        match exportStep env attrs size with
        | none => none
        | some (.error xStatus) => some (xStatus, none, 0)
        | some (.ok s) =>
          match writeSteps env attrs s with
          | none => none
          | some (.error xStatus) => some (xStatus, none, 0)
          | some (.ok s) =>
            if s.pucAsn1WritePtr < size then
              let der := (s.buf.drop (size - s.uxBytesWritten)).take s.uxBytesWritten
              some (psaSuccess, some (blit s.buf 0 der), s.uxBytesWritten)
            else none
      else some (psaErrorInsufficientMemory, none, 0)
  else some (xStatus, none, 0)

end Crypto
