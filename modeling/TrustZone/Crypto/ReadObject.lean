import TrustZone.Lib.Heap
import TrustZone.Crypto.PkiObject

/-!
# Reading an object into a block of the heap

`xReadObjectFromPSACrypto`, `lReadObjectFromPsaIts` and `lReadObjectFromPsaPs` of `mbedtls_pk_psa.c` with the
block that they allocate, the pointers of the caller, and every call of PSA answering as it likes. The last
two are one function of the storage service.
-/

namespace Crypto

open Lib Psa

/-- `*ppucObject` and `*puxObjectLen`; the outer `none` of each is a pointer that is `NULL`. -/
structure ReadOut where
  ppucObject : Option (Option Nat)
  puxObjectLen : Option Nat
  deriving DecidableEq

/-- A block and its length are stored where the pointers point to. -/
def ReadOut.put (out : ReadOut) (p uxObjectLen : Nat) : ReadOut :=
  ⟨out.ppucObject.map fun _ => some p, out.puxObjectLen.map fun _ => uxObjectLen⟩

/-- `psa_its_get_info` and `psa_its_get`, or those of protected storage: the size of an object, and what is
read from an offset on into a buffer. -/
structure StorageCalls where
  getInfo : Nat → Status × Nat
  get : Nat → Nat → Nat → Status × List UInt8

/-- The calls of PSA that read an object. -/
structure ObjectEnv where
  getKeyAttributes : Nat → Status × KeyAttributes
  exportKey : Nat → Nat → Status × List UInt8
  its : StorageCalls
  ps : StorageCalls

/-- `mbedtls_calloc( 1, n )`. -/
def mbedtlsCalloc (al : Allocator) (h : Heap) (n : Nat) : Option Nat × Heap :=
  match h.malloc al n with
  | (none, h) => (none, h)
  | (some p, h) => (some p, ⟨h.next, Function.update h.mem p (some (List.replicate n 0))⟩)

/-- `xReadObjectFromPSACrypto`. -/
def xReadObjectFromPSACryptoOnHeap (env : ObjectEnv) (al : Allocator) (h : Heap) (out : ReadOut)
    (xObjectId : Nat) : Option (Status × ReadOut × Heap) :=
  if psaKeyIdUserMin ≤ xObjectId ∧ xObjectId ≤ psaKeyIdVendorMax then
    if out.ppucObject = none ∨ out.puxObjectLen = none then some (psaErrorInvalidArgument, out, h)
    else
      let (xStatus, xObjectAttrs) := env.getKeyAttributes xObjectId
      if xStatus ≠ psaSuccess then some (xStatus, out, h)
      else if ¬psaKeyTypeIsUnstructured xObjectAttrs.type then some (psaErrorInvalidHandle, out, h)
      else
        let uxBufferLen := (xObjectAttrs.bits.toNat + 7) / 8
        match mbedtlsCalloc al h uxBufferLen with
        | (none, h) => some (psaErrorInsufficientMemory, out, h)
        | (some p, h) =>
          let (xStatus, object) := env.exportKey xObjectId uxBufferLen
          match h.write p object with
          | none => none
          | some h =>
            if xStatus = psaSuccess then
              if 0 < object.length then some (psaSuccess, out.put p object.length, h) else none
            else (h.free p).map fun h => (xStatus, out, h)
  else none

/-- An object of a storage is read. -/
def readStorage (calls : StorageCalls) (al : Allocator) (h : Heap) (out : ReadOut) (xObjectUid : Nat) :
    Option (Int × ReadOut × Heap) :=
  if 0 < xObjectUid then
    if out.ppucObject = none then some (mbedtlsPsaErrTranslatePk psaErrorInvalidArgument, out, h)
    else
      let (xStatus, size) := calls.getInfo xObjectUid
      if xStatus ≠ psaSuccess then some (mbedtlsPsaErrTranslatePk xStatus, out, h)
      else
        match mbedtlsCalloc al h size with
        | (none, h) => some (mbedtlsPsaErrTranslatePk psaErrorInsufficientMemory, out, h)
        | (some p, h) =>
          let (xStatus, data) := calls.get xObjectUid 0 size
          match h.write p data with
          | none => none
          | some h =>
            if xStatus = psaSuccess then some (mbedtlsPsaErrTranslatePk psaSuccess, out.put p data.length, h)
            else some (mbedtlsPsaErrTranslatePk xStatus, out, h)
  else none

/-- `lReadObjectFromPsaIts`. -/
def lReadObjectFromPsaItsOnHeap (env : ObjectEnv) := readStorage env.its

/-- `lReadObjectFromPsaPs`. -/
def lReadObjectFromPsaPsOnHeap (env : ObjectEnv) := readStorage env.ps

/-- The three functions. -/
inductive ObjectReader
  | psaCrypto | psaIts | psaPs
  deriving DecidableEq

/-- A call of one of them. -/
def ObjectReader.run (env : ObjectEnv) (al : Allocator) (h : Heap) (out : ReadOut) (id : Nat) :
    ObjectReader → Option (Int × ReadOut × Heap)
  | psaCrypto => xReadObjectFromPSACryptoOnHeap env al h out id
  | psaIts => lReadObjectFromPsaItsOnHeap env al h out id
  | psaPs => lReadObjectFromPsaPsOnHeap env al h out id

end Crypto
