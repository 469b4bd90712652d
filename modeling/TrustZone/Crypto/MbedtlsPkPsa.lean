import TrustZone.Crypto.GenerateKeyPair
import TrustZone.Crypto.PkiObject
import TrustZone.Crypto.ReadPublicKey

/-!
# Signing with a key in PSA

`psa_ecdsa_sign` and `psa_ecdsa_check_pair` of `mbedtls_pk_psa.c`, with the writes that they make from
`pucSig` on. The memory there goes on behind the buffer of the caller. `pk_ecdsa_sig_asn1_from_psa` is given
once more, with its writes.
-/

namespace Crypto

open Lib Psa

/-! ## The sizes of the headers -/

def psaBitsToBytes (bits : Nat) : Nat := (bits + 7) / 8

def psaVendorRsaMaxKeyBits : Nat := 4096

def psaVendorEccMaxCurveBits : Nat := 521

def psaEcdsaSignatureSize (curveBits : Nat) : Nat := psaBitsToBytes curveBits * 2

def psaVendorEcdsaSignatureMaxSize : Nat := psaEcdsaSignatureSize psaVendorEccMaxCurveBits

def psaSignatureMaxSize : Nat :=
  if psaVendorEcdsaSignatureMaxSize < psaBitsToBytes psaVendorRsaMaxKeyBits then
    psaBitsToBytes psaVendorRsaMaxKeyBits
  else psaVendorEcdsaSignatureMaxSize

/-- `MBEDTLS_ECDSA_MAX_SIG_LEN`. -/
def mbedtlsEcdsaMaxSigLen (bits : Nat) : Nat :=
  (if 61 * 8 ≤ bits then 3 else 2) + 2 * ((if 127 * 8 ≤ bits then 3 else 2) + (bits / 8 + 1))

/-! ## The encoder, with its writes -/

/-- Bytes are written. -/
def writes (off n : Nat) : Traced BufEvent Unit := ⟨[.write off n], some ()⟩

/-- A call of a function that writes backwards from `p`. -/
def written (w : BackWrite) (p : Nat) : Traced BufEvent BackWrite := ⟨[.write w.p (p - w.p)], some w⟩

/-- `MBEDTLS_ASN1_CHK_ADD`. -/
def chkAdd (len : Nat) (k : Nat → Nat → List UInt8 → Traced BufEvent BackWrite) (w : BackWrite) :
    Traced BufEvent BackWrite :=
  if w.ret < 0 then pure w else k (len + w.ret.toNat) w.p w.buf

/-- The length and the tag of an integer. -/
def integerHeadWrites (a : Asn1Write) (buf : List UInt8) (start p len : Nat) : Traced BufEvent BackWrite :=
  written (a.writeLen buf start p len) p >>= chkAdd len fun len p buf =>
    written (a.writeTag buf start p Der.tagInteger) p >>= chkAdd len fun len p buf => pure ⟨len, p, buf⟩

/-- `asn1_write_mpibuf`. -/
def asn1MpibufWrites (a : Asn1Write) (buf : List UInt8) (p start nLen : Nat) : Traced BufEvent BackWrite :=
  if p - start < nLen then pure ⟨mbedtlsErrAsn1BufTooSmall, p, buf⟩
  else do
    writes (p - nLen) nLen
    let moved := blit buf (p - nLen) ((buf.drop start).take nLen)
    let (p, len) := skipZeros moved (p - nLen) nLen
    if len = 0 then pure ⟨mbedtlsErrAsn1OutOfData, p, moved⟩
    else if moved.getD p 0 &&& 0x80 ≠ 0 then
      if p - start < 1 then pure ⟨mbedtlsErrAsn1BufTooSmall, p, moved⟩
      else do
        writes (p - 1) 1
        integerHeadWrites a (blit moved (p - 1) [0]) start (p - 1) (len + 1)
    else integerHeadWrites a moved start p len

/-- The two integers, with their length and tag. -/
def signatureWrites (a : Asn1Write) (sig : List UInt8) (rsLen bufLen : Nat) : Traced BufEvent BackWrite :=
  asn1MpibufWrites a sig bufLen rsLen rsLen >>= chkAdd 0 fun len p buf =>
    asn1MpibufWrites a buf p 0 rsLen >>= chkAdd len fun len p buf =>
      written (a.writeLen buf 0 p len) p >>= chkAdd len fun len p buf =>
        written (a.writeTag buf 0 p Der.tagSequence) p >>= chkAdd len fun len p buf => pure ⟨len, p, buf⟩

/-- `pk_ecdsa_sig_asn1_from_psa`: the result, `*sig_len` and the memory. -/
def ecdsaSigWrites (a : Asn1Write) (sig : List UInt8) (sigLen bufLen : Nat) :
    Traced BufEvent (Int × Nat × List UInt8) := do
  let w ← signatureWrites a sig (sigLen / 2) bufLen
  if w.ret < 0 then pure (w.ret, sigLen, w.buf)
  else
    let len := w.ret.toNat
    writes 0 len
    pure (0, len, blit w.buf 0 ((w.buf.drop w.p).take len))

/-! ## Signing -/

/-- `mbedtls_md_type_t`, the values in use. -/
inductive MdType
  | none | md5 | sha1 | sha224 | sha256 | sha384 | sha512 | ripemd160
  deriving DecidableEq

/-- The algorithms of PSA for the hashes of mbedTLS. -/
def psaHashAlg : MdType → Algorithm
  | .none => 0
  | .md5 => 0x02000003
  | .sha1 => 0x02000005
  | .sha224 => 0x02000008
  | .sha256 => psaAlgSha256
  | .sha384 => psaAlgSha384
  | .sha512 => 0x0200000b
  | .ripemd160 => 0x02000004

/-- `mbedtls_psa_translate_md`, where `enabled` are the hashes that mbedTLS is configured with. -/
def mbedtlsPsaTranslateMd (enabled : MdType → Bool) (mdAlg : MdType) : Algorithm :=
  if enabled mdAlg then psaHashAlg mdAlg else 0

/-- What is read of an `mbedtls_ecp_keypair`: the group and the point. -/
structure EcpKeypair where
  grpId : EcpGroupId
  qX : Int
  qY : Int
  qZ : Int

/-- `PsaPkCtx_t`. -/
structure PsaPkCtx where
  xEcdsaCtx : EcpKeypair
  xKeyId : Nat

/-- What signing is linked with: `psa_sign_hash`, with the bytes that it writes into a buffer of a size,
and mbedTLS with its configuration. -/
structure EcdsaEnv where
  signHash : Nat → Algorithm → List UInt8 → Nat → Status × List UInt8
  asn1 : Asn1Write
  mdEnabled : MdType → Bool
  readSignature : EcpKeypair → List UInt8 → List UInt8 → Int

/-- `psa_ecdsa_sign`: the result, `*pxSigLen` and the memory from `pucSig` on. -/
def psaEcdsaSign (env : EcdsaEnv) (pxPsaCtx : PsaPkCtx) (xMdAlg : MdType) (pucHash pucSig : List UInt8) :
    Traced BufEvent (Int × Nat × List UInt8) := do
  let alg := psaAlgEcdsa (mbedtlsPsaTranslateMd env.mdEnabled xMdAlg)
  let xSigBufferSize := psaSignatureMaxSize
  let (status, sig) :=
    if psaSignatureMaxSize ≤ xSigBufferSize then
      env.signHash pxPsaCtx.xKeyId alg pucHash psaSignatureMaxSize
    else env.signHash pxPsaCtx.xKeyId alg pucHash xSigBufferSize
  writes 0 sig.length
  if status ≠ psaSuccess then pure (mbedtlsPsaErrTranslatePk status, sig.length, blit pucSig 0 sig)
  else ecdsaSigWrites env.asn1 (blit pucSig 0 sig) sig.length xSigBufferSize

/-! ## Checking a pair -/

def mbedtlsErrEcpBadInputData : Int := -0x4F80

/-- `mbedtls_mpi_cmp_mpi`. -/
def mbedtlsMpiCmpMpi (x y : Int) : Int := if x < y then -1 else if y < x then 1 else 0

/-- The group and the point of the public key are those of the private one. -/
def comparePair (xPubCtx : EcpKeypair) (xPrvCtx : PsaPkCtx) : Int :=
  if xPubCtx.grpId = .none ∨ xPubCtx.grpId ≠ xPrvCtx.xEcdsaCtx.grpId then mbedtlsErrEcpBadInputData
  else
    let lResult := mbedtlsMpiCmpMpi xPubCtx.qX xPrvCtx.xEcdsaCtx.qX
    if lResult = 0 then
      let lResult := mbedtlsMpiCmpMpi xPubCtx.qY xPrvCtx.xEcdsaCtx.qY
      if lResult = 0 then mbedtlsMpiCmpMpi xPubCtx.qZ xPrvCtx.xEcdsaCtx.qZ else lResult
    else lResult

def pucTestHash : List UInt8 :=
  [0x01, 0x02, 0x03, 0x04, 0x05, 0x06, 0x07, 0x08, 0x11, 0x12, 0x13, 0x14, 0x15, 0x16, 0x17, 0x18,
   0x21, 0x22, 0x23, 0x24, 0x25, 0x26, 0x27, 0x28, 0x31, 0x32, 0x33, 0x34, 0x35, 0x36, 0x37, 0x38]

/-- `sizeof( pucTestSignature )`. -/
def testSignatureSize : Nat := mbedtlsEcdsaMaxSigLen 256

/-- `psa_ecdsa_check_pair`, where `stack` is the memory from `pucTestSignature` on. -/
def psaEcdsaCheckPair (env : EcdsaEnv) (pvPub : Option EcpKeypair) (pvPrv : Option PsaPkCtx)
    (stack : List UInt8) : Traced BufEvent Int :=
  match pvPub, pvPrv with
  | some xPubCtx, some xPrvCtx =>
    let lResult := comparePair xPubCtx xPrvCtx
    if lResult = 0 then do
      let pucTestSignature := blit stack 0 (List.replicate testSignatureSize 0)
      let (lResult, uxSigLen, pucTestSignature) ←
        psaEcdsaSign env xPrvCtx .sha256 pucTestHash pucTestSignature
      if lResult = 0 then
        pure (env.readSignature xPubCtx pucTestHash (pucTestSignature.take uxSigLen))
      else pure lResult
    else pure lResult
  | _, _ => pure (-1)

end Crypto
