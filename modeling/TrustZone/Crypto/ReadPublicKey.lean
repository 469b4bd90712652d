import TrustZone.Lib.Heap
import TrustZone.Lib.Traced
import TrustZone.Crypto.PkiObjectPsa

/-!
# The accesses of `xReadPublicKeyFromPSACrypto`

The function once more, with what it does to its buffer: each write, and where `pucAsn1WritePtr` is moved.
The pointer is an offset that may be before the start of the buffer, where the function goes on. The buffer
is a block of the heap, whose content the variables hold while the function runs.
-/

namespace Crypto

open Lib Psa

/-- Bytes are written from an offset of the buffer on, or the write pointer is moved to one. -/
inductive BufEvent
  | write (off : Int) (n : Nat)
  | pointer (off : Int)
  deriving DecidableEq

/-- The variables of the function. -/
structure ReadVars where
  pucAsn1WritePtr : Int
  buf : List UInt8
  uxObjLen : Nat
  uxBytesWritten : Nat

/-- The rest of the steps is left out after an error. -/
abbrev ReadM := ExceptT Status (Traced BufEvent)

variable {α : Type}

def record (events : List BufEvent) : ReadM Unit := ExceptT.mk ⟨events, some (.ok ())⟩

/-- Go on when the status is that of success. -/
def examine (xStatus : Status) (x : α) : ReadM α := ExceptT.mk (pure (proceed xStatus x))

/-- `configASSERT`. -/
def readAssert (c : Prop) [Decidable c] : ReadM Unit :=
  ExceptT.mk (if c then pure (.ok ()) else Traced.fail)

/-- A call of a function that writes backwards, with the start of the buffer as the start of the room. What
is before the buffer is given to it where the pointer is there. -/
def asn1Call (f : List UInt8 → Nat → Nat → BackWrite) (v : ReadVars) : ReadM (Int × ReadVars) := do
  let before := (-v.pucAsn1WritePtr).toNat
  let w := f (List.replicate before 0 ++ v.buf) before (v.pucAsn1WritePtr + before).toNat
  let p : Int := w.p - before
  record [.write p (v.pucAsn1WritePtr - p).toNat, .pointer p]
  pure (w.ret, { v with pucAsn1WritePtr := p, buf := w.buf.drop before })

/-- An exported key is moved to the end of the buffer. -/
def moveExported (xStatus : Status) (key exported : List UInt8) (size : Nat) : ReadM ReadVars :=
  if xStatus = psaSuccess then do
    let p : Int := (size : Int) - key.length
    record [.pointer p, .write p key.length]
    pure ⟨p, blit exported p.toNat key, key.length, 0⟩
  else pure ⟨0, exported, 0, 0⟩

/-- Put the null byte before the pointer. The outcome of the export is examined then. -/
def putNullByte (xStatus : Status) (v : ReadVars) : ReadM ReadVars := do
  let p := v.pucAsn1WritePtr - 1
  record [.pointer p, .write p 1]
  let buf := if 0 ≤ p then blit v.buf p.toNat [0] else v.buf
  examine xStatus ⟨p, buf, v.uxObjLen + 1, v.uxObjLen + 1⟩

/-- Export the key to the end of the buffer, if there is room for it, with the null byte before it. -/
def exportKeyStep (env : PkiEnv) (attrs : KeyAttributes) (size : Nat) : ReadM ReadVars :=
  if size < psaExportPublicKeyOutputSize attrs.type attrs.bits.toNat + 1 then
    throw psaErrorBufferTooSmall
  else do
    let (xStatus, key) := exportPublic env attrs.type size
    record [.pointer 0, .write 0 key.length]
    let v ← moveExported xStatus key (blit (List.replicate size 0) 0 key) size
    putNullByte xStatus v

/-- The length or the tag of the public key object. -/
def countCall (f : List UInt8 → Nat → Nat → BackWrite) (v : ReadVars) : ReadM ReadVars := do
  let (lRslt, v) ← asn1Call f v
  if 0 < lRslt then pure { v with uxBytesWritten := v.uxBytesWritten + lRslt.toNat }
  else examine (mbedtlsToPsaError lRslt) v

/-- The parameters of the algorithm. -/
def paramsCall (env : PkiEnv) (attrs : KeyAttributes) (v : ReadVars) : ReadM (PkType × ReadVars) :=
  let v := { v with uxObjLen := 0 }
  if psaKeyTypeIsEcc attrs.type then
    let (lRslt, oid) := mbedtlsPsaGetEccOidFromId env.eccEnabled (psaKeyTypeEccGetFamily attrs.type)
      attrs.bits.toNat
    match oid with
    | none => examine (mbedtlsToPsaError mbedtlsErrPkFeatureUnavailable) (.eckey, v)
    | some oid =>
      if lRslt = 0 then do
        let (lRslt, v) ← asn1Call (fun buf start p => env.asn1.writeOid buf start p oid) v
        let uxObjLen := if 0 < lRslt then lRslt.toNat else 0
        examine (mbedtlsToPsaError lRslt) (.eckey, { v with uxObjLen := uxObjLen })
      else examine (mbedtlsToPsaError lRslt) (.eckey, v)
  else if psaKeyTypeIsRsa attrs.type then examine (mbedtlsToPsaError 0) (.rsa, v)
  else examine (mbedtlsToPsaError mbedtlsErrPkFeatureUnavailable) (.none, v)

/-- The algorithm, and the end of the `AlgorithmIdentifier`. -/
def algorithmCall (env : PkiEnv) (xPkType : PkType) (v : ReadVars) : ReadM ReadVars :=
  let (lRslt, oid) := env.oidByPkAlg xPkType
  match oid with
  | none => examine (mbedtlsToPsaError mbedtlsErrPkFeatureUnavailable) v
  | some oid =>
    if oid.length = 0 then examine (mbedtlsToPsaError mbedtlsErrPkFeatureUnavailable) v
    else if lRslt = 0 then do
      let (lRslt, v) ← asn1Call
        (fun buf start p => env.asn1.writeAlgorithmIdentifier buf start p oid v.uxObjLen) v
      let uxBytesWritten := if 0 < lRslt then v.uxBytesWritten + lRslt.toNat else v.uxBytesWritten
      examine (mbedtlsToPsaError lRslt) { v with uxBytesWritten := uxBytesWritten }
    else examine (mbedtlsToPsaError lRslt) v

/-- The length and the tag of the `SubjectPublicKeyInfo`. -/
def closeCall (env : PkiEnv) (v : ReadVars) : ReadM ReadVars := do
  let (lRslt, v) ← asn1Call (fun buf start p => env.asn1.writeLen buf start p v.uxBytesWritten) v
  readAssert (lRslt ≠ 0)
  if 0 < lRslt then
    let uxBytesWritten := v.uxBytesWritten + lRslt.toNat
    let (lRslt, v) ← asn1Call (fun buf start p => env.asn1.writeTag buf start p Der.tagSequence) v
    let uxBytesWritten := if 0 < lRslt then uxBytesWritten + lRslt.toNat else uxBytesWritten
    examine (mbedtlsToPsaError lRslt) { v with uxBytesWritten := uxBytesWritten }
  else examine (mbedtlsToPsaError lRslt) v

/-- The DER object is moved to the start of the buffer, if it is not there. -/
def moveStep (size : Nat) (v : ReadVars) : ReadM ReadVars := do
  readAssert (0 ≤ v.pucAsn1WritePtr)
  readAssert (v.pucAsn1WritePtr < size)
  if v.uxBytesWritten < size then
    record [.write 0 v.uxBytesWritten]
    let der := (v.buf.drop (size - v.uxBytesWritten)).take v.uxBytesWritten
    pure { v with buf := blit v.buf 0 der }
  else pure v

/-- The steps between the allocation and the error path. -/
def readSteps (env : PkiEnv) (attrs : KeyAttributes) (size : Nat) : ReadM ReadVars := do
  let v ← exportKeyStep env attrs size
  let v ← countCall (fun buf start p => env.asn1.writeLen buf start p v.uxObjLen) v
  let v ← countCall (fun buf start p => env.asn1.writeTag buf start p Der.tagBitString) v
  let (xPkType, v) ← paramsCall env attrs v
  let v ← algorithmCall env xPkType v
  let v ← closeCall env v
  moveStep size v

/-- The end of the function: the block `p` is the caller's after a success, and freed after an error. -/
def finishRead (h : Heap) (p : Nat) :
    Except Status ReadVars → Traced BufEvent (Status × Option Nat × Nat × Heap)
  | .ok v => pure (psaSuccess, some p, v.uxBytesWritten, ⟨h.next, Function.update h.mem p (some v.buf)⟩)
  | .error xStatus =>
    match h.free p with
    | some h => pure (xStatus, none, 0, h)
    | none => Traced.fail

/-- `xReadPublicKeyFromPSACrypto` on a heap: the status, `*ppucPubKeyDer`, `*puxPubDerKeyLen` and the
heap. -/
def xReadPublicKeyFromPSACryptoOnHeap (env : PkiEnv) (al : Allocator) (h : Heap) :
    Traced BufEvent (Status × Option Nat × Nat × Heap) :=
  let xStatus := env.getKeyAttributes.1
  let attrs := env.getKeyAttributes.2
  if xStatus = psaSuccess then
    match pubKeyDerLen env attrs.type with
    | none => pure (psaErrorInsufficientMemory, none, 0, h)
    | some size =>
      match h.malloc al size with
      | (none, h) => pure (psaErrorInsufficientMemory, none, 0, h)
      | (some p, h) => (readSteps env attrs size).run >>= finishRead h p
  else pure (xStatus, none, 0, h)

end Crypto
