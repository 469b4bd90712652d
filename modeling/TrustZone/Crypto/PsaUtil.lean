import TrustZone.Lib.BackWriter
import TrustZone.Lib.Der
import TrustZone.Psa.Defs

/-!
# Signatures, error codes and curves between mbedTLS and PSA

`asn1_write_mpibuf`, `pk_ecdsa_sig_asn1_from_psa`, `mbedtls_to_psa_error` and
`mbedtls_psa_get_ecc_oid_from_id` of `psa_util.c`. Pointers into a buffer are offsets. The functions of
mbedTLS that write backwards are a parameter (`Asn1Write`), used as they are documented
(`Asn1Write.Documented`); error codes and object identifiers are those of its headers.
-/

namespace Crypto

open Lib Psa

/-! ## Writing ASN.1 -/

/-- `mbedtls_asn1_write_len`, `_tag`, `_oid` and `_algorithm_identifier`: the buffer, the start of the
room and the position come first. -/
structure Asn1Write where
  writeLen : List UInt8 → Nat → Nat → Nat → BackWrite
  writeTag : List UInt8 → Nat → Nat → UInt8 → BackWrite
  writeOid : List UInt8 → Nat → Nat → List UInt8 → BackWrite
  writeAlgorithmIdentifier : List UInt8 → Nat → Nat → List UInt8 → Nat → BackWrite

/-- An `AlgorithmIdentifier` without its parameters, which take `parLen` bytes behind it. -/
def algorithmHead (oid : List UInt8) (parLen : Nat) : List UInt8 :=
  Der.tagSequence :: (Der.lenOctets ((Der.oid oid).length + parLen) ++ Der.oid oid)

/-- What the functions are documented to do: to write the DER value, or to fail for want of room. An
`AlgorithmIdentifier` gets `NULL` for parameters of no length; else they are written already, and
their length is part of the result. -/
structure Asn1Write.Documented (a : Asn1Write) : Prop where
  writeLen : ∀ buf start p len, len < 2 ^ 32 →
    Writes (Der.lenOctets len) buf start p (a.writeLen buf start p len)
  writeTag : ∀ buf start p tag, Writes [tag] buf start p (a.writeTag buf start p tag)
  writeOid : ∀ buf start p oid, Writes (Der.oid oid) buf start p (a.writeOid buf start p oid)
  writeNull : ∀ buf start p oid, Writes (algorithmHead oid Der.null.length ++ Der.null) buf start p
    (a.writeAlgorithmIdentifier buf start p oid 0)
  writeParams : ∀ buf start p oid parLen, 0 < parLen → ∃ w : BackWrite,
    Writes (algorithmHead oid parLen) buf start p w ∧
      a.writeAlgorithmIdentifier buf start p oid parLen =
        if w.ret < 0 then w else { w with ret := w.ret + parLen }

def mbedtlsErrAsn1OutOfData : Int := -0x60
def mbedtlsErrAsn1BufTooSmall : Int := -0x6C

/-- Write `bytes` if they fit. -/
def writeBytes (bytes buf : List UInt8) (start p : Nat) : BackWrite :=
  if start + bytes.length ≤ p then
    ⟨bytes.length, p - bytes.length, blit buf (p - bytes.length) bytes⟩
  else ⟨mbedtlsErrAsn1BufTooSmall, p, buf⟩

/-- Functions that write all or nothing. -/
def Asn1Write.whole : Asn1Write where
  writeLen buf start p len := writeBytes (Der.lenOctets len) buf start p
  writeTag buf start p tag := writeBytes [tag] buf start p
  writeOid buf start p oid := writeBytes (Der.oid oid) buf start p
  writeAlgorithmIdentifier buf start p oid parLen :=
    if parLen = 0 then
      writeBytes (algorithmHead oid Der.null.length ++ Der.null) buf start p
    else
      let w := writeBytes (algorithmHead oid parLen) buf start p
      if w.ret < 0 then w else { w with ret := w.ret + parLen }

theorem writeBytes_writes (bytes buf : List UInt8) (start p : Nat) :
    Writes bytes buf start p (writeBytes bytes buf start p) := by
  unfold writeBytes
  refine ⟨fun h => if_pos h, fun h => ?_⟩
  rw [if_neg (by omega)]
  exact (by decide : mbedtlsErrAsn1BufTooSmall < 0)

theorem Asn1Write.whole_documented : Asn1Write.whole.Documented := by
  refine ⟨fun _ _ _ _ _ => writeBytes_writes _ _ _ _, fun _ _ _ _ => writeBytes_writes _ _ _ _,
    fun _ _ _ _ => writeBytes_writes _ _ _ _, fun _ _ _ _ => writeBytes_writes _ _ _ _,
    fun buf start p oid parLen hpar => ⟨_, writeBytes_writes _ _ _ _, ?_⟩⟩
  exact if_neg (by omega)

/-! ## Signatures -/

/-- The loop over leading zeros: the position and the length that remain. -/
def skipZeros (buf : List UInt8) : Nat → Nat → Nat × Nat
  | p, 0 => (p, 0)
  | p, len + 1 => if buf.getD p 0 = 0 then skipZeros buf (p + 1) len else (p, len + 1)

/-- The length and the tag of an integer whose `len` bytes are written. -/
def writeIntegerHead (a : Asn1Write) (buf : List UInt8) (start p len : Nat) : BackWrite :=
  (a.writeLen buf start p len).andThen len fun len p buf =>
    (a.writeTag buf start p Der.tagInteger).andThen len fun len p buf => ⟨len, p, buf⟩

/-- `asn1_write_mpibuf`. -/
def asn1WriteMpibuf (a : Asn1Write) (buf : List UInt8) (p start nLen : Nat) : BackWrite :=
  if p - start < nLen then ⟨mbedtlsErrAsn1BufTooSmall, p, buf⟩
  else
    let moved := blit buf (p - nLen) ((buf.drop start).take nLen)
    let (p, len) := skipZeros moved (p - nLen) nLen
    if len = 0 then ⟨mbedtlsErrAsn1OutOfData, p, moved⟩
    else if moved.getD p 0 &&& 0x80 ≠ 0 then
      if p - start < 1 then ⟨mbedtlsErrAsn1BufTooSmall, p, moved⟩
      else writeIntegerHead a (blit moved (p - 1) [0]) start (p - 1) (len + 1)
    else writeIntegerHead a moved start p len

/-- `pk_ecdsa_sig_asn1_from_psa`: the result, `*sig_len` and the buffer. -/
def pkEcdsaSigAsn1FromPsa (a : Asn1Write) (sig : List UInt8) (sigLen bufLen : Nat) :
    Int × Nat × List UInt8 :=
  let rsLen := sigLen / 2
  let w := (asn1WriteMpibuf a sig bufLen rsLen rsLen).andThen 0 fun len p buf =>
    (asn1WriteMpibuf a buf p 0 rsLen).andThen len fun len p buf =>
      (a.writeLen buf 0 p len).andThen len fun len p buf =>
        (a.writeTag buf 0 p Der.tagSequence).andThen len fun len p buf => ⟨len, p, buf⟩
  if w.ret < 0 then (w.ret, sigLen, w.buf)
  else
    let len := w.ret.toNat
    (0, len, blit w.buf 0 ((w.buf.drop w.p).take len))

/-! ## Error codes -/

/-- The cases of the switch in `mbedtls_to_psa_error`, but for zero. -/
def psaErrorCases : List (Int × Status) :=
  [ -- `AES_INVALID_KEY_LENGTH`, `AES_INVALID_INPUT_LENGTH`
   (-0x20, psaErrorNotSupported), (-0x22, psaErrorNotSupported),
   -- `ASN1_OUT_OF_DATA`, `_UNEXPECTED_TAG`, `_INVALID_LENGTH`, `_LENGTH_MISMATCH`, `_INVALID_DATA`
   (mbedtlsErrAsn1OutOfData, psaErrorInvalidArgument), (-0x62, psaErrorInvalidArgument),
   (-0x64, psaErrorInvalidArgument), (-0x66, psaErrorInvalidArgument),
   (-0x68, psaErrorInvalidArgument),
   -- `ASN1_ALLOC_FAILED`, `ASN1_BUF_TOO_SMALL`
   (-0x6A, psaErrorInsufficientMemory), (mbedtlsErrAsn1BufTooSmall, psaErrorBufferTooSmall),
   -- `CAMELLIA_BAD_INPUT_DATA`
   (-0x24, psaErrorNotSupported),
   -- `CIPHER_FEATURE_UNAVAILABLE`, `_BAD_INPUT_DATA`, `_ALLOC_FAILED`, `_INVALID_PADDING`
   (-0x6080, psaErrorNotSupported), (-0x6100, psaErrorInvalidArgument),
   (-0x6180, psaErrorInsufficientMemory), (-0x6200, psaErrorInvalidPadding),
   -- `CIPHER_FULL_BLOCK_EXPECTED`, `_AUTH_FAILED`, `_INVALID_CONTEXT`
   (-0x6280, psaErrorInvalidArgument), (-0x6300, psaErrorInvalidSignature),
   (-0x6380, psaErrorCorruptionDetected),
   -- `CTR_DRBG_ENTROPY_SOURCE_FAILED`, `_REQUEST_TOO_BIG`, `_INPUT_TOO_BIG`, `_FILE_IO_ERROR`
   (-0x34, psaErrorInsufficientEntropy), (-0x36, psaErrorNotSupported),
   (-0x38, psaErrorNotSupported), (-0x3A, psaErrorInsufficientEntropy),
   -- `ENTROPY_NO_SOURCES_DEFINED`, `_NO_STRONG_SOURCE`, `_SOURCE_FAILED`
   (-0x40, psaErrorInsufficientEntropy), (-0x3D, psaErrorInsufficientEntropy),
   (-0x3C, psaErrorInsufficientEntropy),
   -- `MD_FEATURE_UNAVAILABLE`, `_BAD_INPUT_DATA`, `_ALLOC_FAILED`, `_FILE_IO_ERROR`
   (-0x5080, psaErrorNotSupported), (-0x5100, psaErrorInvalidArgument),
   (-0x5180, psaErrorInsufficientMemory), (-0x5200, psaErrorStorageFailure),
   -- `MPI_FILE_IO_ERROR`, `_BAD_INPUT_DATA`, `_INVALID_CHARACTER`, `_BUFFER_TOO_SMALL`
   (-0x02, psaErrorStorageFailure), (-0x04, psaErrorInvalidArgument),
   (-0x06, psaErrorInvalidArgument), (-0x08, psaErrorBufferTooSmall),
   -- `MPI_NEGATIVE_VALUE`, `_DIVISION_BY_ZERO`, `_NOT_ACCEPTABLE`, `_ALLOC_FAILED`
   (-0x0A, psaErrorInvalidArgument), (-0x0C, psaErrorInvalidArgument),
   (-0x0E, psaErrorInvalidArgument), (-0x10, psaErrorInsufficientMemory),
   -- `PK_ALLOC_FAILED`, `_TYPE_MISMATCH`, `_BAD_INPUT_DATA`, `_FILE_IO_ERROR`
   (-0x3F80, psaErrorInsufficientMemory), (-0x3F00, psaErrorInvalidArgument),
   (-0x3E80, psaErrorInvalidArgument), (-0x3E00, psaErrorStorageFailure),
   -- `PK_KEY_INVALID_VERSION`, `_KEY_INVALID_FORMAT`, `_UNKNOWN_PK_ALG`
   (-0x3D80, psaErrorInvalidArgument), (-0x3D00, psaErrorInvalidArgument),
   (-0x3C80, psaErrorNotSupported),
   -- `PK_PASSWORD_REQUIRED`, `_PASSWORD_MISMATCH`, `_INVALID_PUBKEY`
   (-0x3C00, psaErrorNotPermitted), (-0x3B80, psaErrorNotPermitted),
   (-0x3B00, psaErrorInvalidArgument),
   -- `PK_INVALID_ALG`, `_UNKNOWN_NAMED_CURVE`, `_FEATURE_UNAVAILABLE`, `_SIG_LEN_MISMATCH`
   (-0x3A80, psaErrorNotSupported), (-0x3A00, psaErrorNotSupported),
   (-0x3980, psaErrorNotSupported), (-0x3900, psaErrorInvalidSignature),
   -- `RSA_BAD_INPUT_DATA`, `_INVALID_PADDING`, `_KEY_GEN_FAILED`, `_KEY_CHECK_FAILED`
   (-0x4080, psaErrorInvalidArgument), (-0x4100, psaErrorInvalidPadding),
   (-0x4180, psaErrorHardwareFailure), (-0x4200, psaErrorInvalidArgument),
   -- `RSA_PUBLIC_FAILED`, `_PRIVATE_FAILED`, `_VERIFY_FAILED`, `_OUTPUT_TOO_LARGE`, `_RNG_FAILED`
   (-0x4280, psaErrorCorruptionDetected), (-0x4300, psaErrorCorruptionDetected),
   (-0x4380, psaErrorInvalidSignature), (-0x4400, psaErrorBufferTooSmall),
   (-0x4480, psaErrorInsufficientEntropy),
   -- `ECP_BAD_INPUT_DATA`, `_INVALID_KEY`, `_BUFFER_TOO_SMALL`, `_FEATURE_UNAVAILABLE`
   (-0x4F80, psaErrorInvalidArgument), (-0x4C80, psaErrorInvalidArgument),
   (-0x4F00, psaErrorBufferTooSmall), (-0x4E80, psaErrorNotSupported),
   -- `ECP_SIG_LEN_MISMATCH`, `_VERIFY_FAILED`, `_ALLOC_FAILED`, `_RANDOM_FAILED`
   (-0x4C00, psaErrorInvalidSignature), (-0x4E00, psaErrorInvalidSignature),
   (-0x4D80, psaErrorInsufficientMemory), (-0x4D00, psaErrorInsufficientEntropy),
   -- `ERROR_CORRUPTION_DETECTED`
   (-0x6E, psaErrorCorruptionDetected)]

/-- `mbedtls_to_psa_error`: the switch on the low seven bits of the error, if there are any. -/
def mbedtlsToPsaError (ret : Int) : Status :=
  let lowLevelRet := -(-ret % 128)
  let code := if lowLevelRet ≠ 0 then lowLevelRet else ret
  if code = 0 then psaSuccess
  else
    match psaErrorCases.lookup code with
    | some status => status
    | none => if ret < 0 then psaErrorGenericError else psaSuccess

/-! ## Curves -/

def oidSecp192r1 : List UInt8 := [0x2A, 0x86, 0x48, 0xCE, 0x3D, 0x03, 0x01, 0x01]
def oidSecp224r1 : List UInt8 := [0x2B, 0x81, 0x04, 0x00, 0x21]
def oidSecp256r1 : List UInt8 := [0x2A, 0x86, 0x48, 0xCE, 0x3D, 0x03, 0x01, 0x07]
def oidSecp384r1 : List UInt8 := [0x2B, 0x81, 0x04, 0x00, 0x22]
def oidSecp521r1 : List UInt8 := [0x2B, 0x81, 0x04, 0x00, 0x23]
def oidSecp192k1 : List UInt8 := [0x2B, 0x81, 0x04, 0x00, 0x1F]
def oidSecp224k1 : List UInt8 := [0x2B, 0x81, 0x04, 0x00, 0x20]
def oidSecp256k1 : List UInt8 := [0x2B, 0x81, 0x04, 0x00, 0x0A]
def oidBp256r1 : List UInt8 := [0x2B, 0x24, 0x03, 0x03, 0x02, 0x08, 0x01, 0x01, 0x07]
def oidBp384r1 : List UInt8 := [0x2B, 0x24, 0x03, 0x03, 0x02, 0x08, 0x01, 0x01, 0x0B]
def oidBp512r1 : List UInt8 := [0x2B, 0x24, 0x03, 0x03, 0x02, 0x08, 0x01, 0x01, 0x0D]

/-- The curves of `mbedtls_psa_get_ecc_oid_from_id`: family, bits and identifier. -/
def eccOids : List ((EccFamily × Nat) × List UInt8) :=
  [((psaEccFamilySecpR1, 192), oidSecp192r1), ((psaEccFamilySecpR1, 224), oidSecp224r1),
   ((psaEccFamilySecpR1, 256), oidSecp256r1), ((psaEccFamilySecpR1, 384), oidSecp384r1),
   ((psaEccFamilySecpR1, 521), oidSecp521r1), ((psaEccFamilySecpK1, 192), oidSecp192k1),
   ((psaEccFamilySecpK1, 224), oidSecp224k1), ((psaEccFamilySecpK1, 256), oidSecp256k1),
   ((psaEccFamilyBrainpoolPR1, 256), oidBp256r1), ((psaEccFamilyBrainpoolPR1, 384), oidBp384r1),
   ((psaEccFamilyBrainpoolPR1, 512), oidBp512r1)]

/-- `mbedtls_psa_get_ecc_oid_from_id`, where `enabled` are the curves that mbedTLS is configured with:
the result, and what it leaves in `*oid`. -/
def mbedtlsPsaGetEccOidFromId (enabled : EccFamily → Nat → Bool) (curve : EccFamily) (bits : Nat) :
    Int × Option (List UInt8) :=
  match eccOids.lookup (curve, bits) with
  | some oid => if enabled curve bits then (0, some oid) else (-1, none)
  | none => (-1, none)

end Crypto
