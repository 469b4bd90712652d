import TrustZone.Crypto.ReadObject
import TrustZone.Crypto.ReadPublicKey
import TrustZone.Crypto.Provisioning
import TrustZone.Lib.Ledger

/-!
# The blocks that PKI objects take from the heap

The functions of `PkiObject.c`, and what they call of `PkiObjectPsa.c` and `mbedtls_pk_psa.c`, with every
block that they allocate and free and every call of PSA and mbedTLS answering as it likes. A block has the
name of the variable that gets it; those that a context of mbedTLS owns are counted.
-/

namespace Crypto.Blocks

open Lib Psa

/-- The blocks, by the variable that holds them or the context that owns them. `pkCtx` is the context in an
`mbedtls_pk_context`, `pkNumbers` are the numbers in it. -/
inductive Block
  | pucCsrDer | pucCertDer | pucPublicKeyDer | pucDerBuffer | pcSubjectName
  | xEntropyCtx | xCsr | xWriteCertCtx | xCertSerialNumber | xCertContext | pkCtx | pkNumbers
  | pxPsaPk | pucPk | pucPubKeyDer | pucCertBuffer | pucPubKeyBuffer
  deriving DecidableEq

/-- A computation that records what it does with blocks. -/
abbrev HeapM := Traced (Deed Block)

/-- A record is one deed. -/
def one (d : Deed Block) : List (Deed Block) := [d]

/-- A context owns `n` blocks more. -/
def take (b : Block) (n : Nat) : HeapM Unit := ⟨.replicate n (.take b), some ()⟩

/-- What a context owns is released. -/
def give (b : Block) (n : Nat) : HeapM Unit := ⟨.replicate n (.give b), some ()⟩

/-- `pvPortMalloc` and `mbedtls_calloc`. -/
def malloc (b : Block) (granted : Bool) : HeapM Bool := do
  take b granted.toNat
  pure granted

/-- `if( p != NULL ) mbedtls_free( p );` -/
def free (b : Block) (isSet : Bool) : HeapM Unit := give b isSet.toNat

/-! ## mbedTLS -/

/-- What parsing a key returns, what the `mbedtls_pk_context` owns then, and what is read of it. A parser
that succeeds has made the context in it. -/
structure PkAns where
  ret : Int
  pkCtx : Bool
  numbers : Nat
  pk : PkContext
  pkCtx_of_ret : 0 ≤ ret → pkCtx = true

/-- What parsing certificates returns, and the blocks that the `mbedtls_x509_crt` owns then; with a
certificate in it these are some. -/
structure CrtAns where
  ret : Int
  owns : Nat
  owns_of_ret : 0 ≤ ret → 0 < owns

/-- A key is parsed into a context. -/
def PkAns.parse (a : PkAns) : HeapM Int := do
  take .pkCtx a.pkCtx.toNat
  take .pkNumbers a.numbers
  pure a.ret

/-- `mbedtls_pk_free`. -/
def PkAns.pkFree (a : PkAns) : HeapM Unit := do
  free .pkCtx a.pkCtx
  give .pkNumbers a.numbers

/-- Certificates are parsed into a context. -/
def CrtAns.parse (a : CrtAns) : HeapM Int := do
  take .xCertContext a.owns
  pure a.ret

/-- How the calls answer. The key that `xReadPublicKeyFromPSACrypto` reads is given by what that function is
linked with. -/
structure HeapCalls where
  object : ObjectEnv
  calloc : Nat → Bool
  publicKey : Nat → PkiEnv
  psaPkCtxAlloc : Bool
  pvPortMalloc : Nat → Bool
  pkParseKey : Option (List UInt8) → PkAns
  pkParsePublicKey : List UInt8 → PkAns
  x509CrtParse : Option (List UInt8) → CrtAns
  x509CrtParseDer : Option (List UInt8) → CrtAns
  x509CrtParseDerNocopy : Option (List UInt8) → CrtAns
  pubKeyBuffer : Nat → Bool
  importKey : Status
  storageSet : Status
  destroyPrv : Status
  destroyPub : Status
  generateKey : Status

/-! ## Readers -/

/-- `lReadObjectFromPsaIts` and `lReadObjectFromPsaPs`: after an error of the second call nobody has the
block. -/
def readObject (b : Block) (calls : StorageCalls) (calloc : Nat → Bool) (xObjectUid : Nat) :
    HeapM (Int × Option (List UInt8)) :=
  if 0 < xObjectUid then
    let (xStatus, size) := calls.getInfo xObjectUid
    if xStatus ≠ psaSuccess then pure (mbedtlsPsaErrTranslatePk xStatus, none)
    else do
      if ← malloc b (calloc size) then
        let (xStatus, data) := calls.get xObjectUid 0 size
        pure (mbedtlsPsaErrTranslatePk xStatus, if xStatus = psaSuccess then some data else none)
      else pure (mbedtlsPsaErrTranslatePk psaErrorInsufficientMemory, none)
  else .fail

/-- `xReadObjectFromPSACrypto`. -/
def xReadObjectFromPSACrypto (b : Block) (env : ObjectEnv) (calloc : Nat → Bool) (xObjectId : Nat) :
    HeapM (Status × Option (List UInt8)) :=
  if psaKeyIdUserMin ≤ xObjectId ∧ xObjectId ≤ psaKeyIdVendorMax then
    let (xStatus, xObjectAttrs) := env.getKeyAttributes xObjectId
    if xStatus ≠ psaSuccess then pure (xStatus, none)
    else if ¬psaKeyTypeIsUnstructured xObjectAttrs.type then pure (psaErrorInvalidHandle, none)
    else do
      let uxBufferLen := (xObjectAttrs.bits.toNat + 7) / 8
      if ← malloc b (calloc uxBufferLen) then
        let (xStatus, object) := env.exportKey xObjectId uxBufferLen
        if xStatus = psaSuccess then
          if 0 < object.length then pure (psaSuccess, some object) else .fail
        else do
          free b true
          pure (xStatus, none)
      else pure (psaErrorInsufficientMemory, none)
  else .fail

/-- `xReadPublicKeyFromPSACrypto`: the status, `*ppucPubKeyDer` and `*puxPubDerKeyLen`. -/
def xReadPublicKeyFromPSACrypto (b : Block) (env : PkiEnv) :
    HeapM (Status × Option (List UInt8) × Nat) :=
  let (xStatus, attrs) := env.getKeyAttributes
  if xStatus = psaSuccess then
    match pubKeyDerLen env attrs.type with
    | none => pure (psaErrorInsufficientMemory, none, 0)
    | some size => do
      if ← malloc b (env.calloc size) then
        match (readSteps env attrs size).run.result with
        | none => .fail
        | some (.ok v) => pure (psaSuccess, some v.buf, v.uxBytesWritten)
        | some (.error xStatus) =>
          free b true
          pure (xStatus, none, 0)
      else pure (psaErrorInsufficientMemory, none, 0)
  else pure (xStatus, none, 0)

/-! ## Private keys -/

/-- The public key of `lPsa_initMbedtlsPkContext`, parsed into a context of its own. Of that one the numbers
go over to the caller's. -/
def parseOwnPublicKey (c : HeapCalls) (der : List UInt8) : HeapM Int := do
  let a := c.pkParsePublicKey der
  let lError ← a.parse
  if lError = 0 then
    if a.pk.type = .eckey then
      free .pkCtx a.pkCtx
      pure 0
    else .fail
  else pure lError

/-- `lPsa_initMbedtlsPkContext`. -/
def lPsaInitMbedtlsPkContext (c : HeapCalls) (xKeyId : Nat) : HeapM Int :=
  if xKeyId = 0 then pure (-1)
  else do
    if ← malloc .pxPsaPk c.psaPkCtxAlloc then
      let (xPsaStatus, pucPubKeyDer, uxPubKeyLen) ←
        xReadPublicKeyFromPSACrypto .pucPubKeyDer (c.publicKey xKeyId)
      let lError ←
        if xPsaStatus ≠ psaSuccess then pure (mbedtlsPsaErrTranslatePk xPsaStatus)
        else parseOwnPublicKey c ((pucPubKeyDer.getD []).take uxPubKeyLen)
      free .pucPubKeyDer pucPubKeyDer.isSome
      -- psa_pk_ctx_free
      free .pxPsaPk (lError ≠ 0)
      pure lError
    else pure (-1)

/-- A private key in a buffer. -/
def readPrivateBuffer (c : HeapCalls) (pucBuffer : Option (List UInt8)) : HeapM PkiStatus :=
  if pucBuffer.getD [] = [] then pure .argInvalid
  else xPrvMbedtlsErrToPkiStatus <$> (c.pkParseKey pucBuffer).parse

/-- A private key that is read from a storage. -/
def readPrivateBlob (c : HeapCalls) (calls : StorageCalls) (xObjectUid : Nat) : HeapM PkiStatus := do
  let (lError, pucPk) ← readObject .pucPk calls c.calloc xObjectUid
  let lError ← if lError = 0 then (c.pkParseKey pucPk).parse else pure lError
  if pucPk = some [] then .fail
  else
    free .pucPk pucPk.isSome
    pure (xPrvMbedtlsErrToPkiStatus lError)

/-- `xPkiReadPrivateKey`. -/
def xPkiReadPrivateKey (c : HeapCalls) : PkiObject → HeapM PkiStatus
  | .pem pucBuffer => readPrivateBuffer c pucBuffer
  | .der pucBuffer => readPrivateBuffer c pucBuffer
  | .psaCrypto id => xPrvMbedtlsErrToPkiStatus <$> lPsaInitMbedtlsPkContext c id
  | .psaIts uid => readPrivateBlob c c.object.its uid
  -- without a `break`, the default case sets the status again
  | .psaPs uid => (fun _ => .argInvalid) <$> readPrivateBlob c c.object.ps uid
  | .none => pure .argInvalid

/-! ## Public keys -/

/-- `lWritePublicKeyToPSACrypto`. -/
def lWritePublicKeyToPSACrypto (c : HeapCalls) (xPubKeyId : Nat) (pk : PkContext) : HeapM Int :=
  if xPubKeyId = 0 then .fail
  else do
    let xStatus ←
      if pk.type = .eckey then do
        if ← malloc .pucPubKeyBuffer (c.pubKeyBuffer (pointSize pk)) then
          if (pk.pointWriteBinary (pointSize pk)).1 ≠ 0 then pure psaErrorGenericError
          else pure c.importKey
        else pure psaErrorInsufficientMemory
      else pure psaErrorNotSupported
    pure (mbedtlsPsaErrTranslatePk xStatus)

/-- The switch of `xPkiWritePubKey`. -/
def writePubKey (c : HeapCalls) (pk : PkContext) : PkiObject → HeapM PkiStatus
  | .psaCrypto id => xPrvMbedtlsErrToPkiStatus <$> lWritePublicKeyToPSACrypto c id pk
  | .psaIts _ => pure (xPrvMbedtlsErrToPkiStatus (mbedtlsPsaErrTranslatePk c.storageSet))
  | .psaPs _ => pure (xPrvMbedtlsErrToPkiStatus (mbedtlsPsaErrTranslatePk c.storageSet))
  | _ => pure .argInvalid

/-- `xPkiWritePubKey`. -/
def xPkiWritePubKey (c : HeapCalls) (pcPubKeyLabel : List UInt8) (pk : PkContext) : HeapM PkiStatus :=
  writePubKey c pk (xPkiObjectFromLabel pcPubKeyLabel)

/-- A public key in a buffer is copied. The block is not checked. -/
def copyPublicKey (b : Block) (c : HeapCalls) (pucBuffer : Option (List UInt8)) :
    HeapM (PkiStatus × Option (List UInt8) × Nat) :=
  let der := pucBuffer.getD []
  if der = [] then pure (.argInvalid, none, 0)
  else do
    if ← malloc b (c.pvPortMalloc der.length) then pure (.success, some der, der.length) else .fail

/-- A public key that is read from a storage. -/
def readPublicBlob (b : Block) (c : HeapCalls) (xObjectUid : Nat) :
    HeapM (PkiStatus × Option (List UInt8) × Nat) := do
  let (lError, der) ← readObject b c.object.its c.calloc xObjectUid
  pure (xPrvMbedtlsErrToPkiStatus lError, der, (der.getD []).length)

/-- `xPkiReadPublicKeyDer`, with pointers that are not `NULL`: the status, `*ppucPubKeyDer` and
`*puxPubKeyDerLen`. -/
def xPkiReadPublicKeyDer (b : Block) (c : HeapCalls) :
    PkiObject → HeapM (PkiStatus × Option (List UInt8) × Nat)
  | .pem pucBuffer => copyPublicKey b c pucBuffer
  | .der pucBuffer => copyPublicKey b c pucBuffer
  | .psaCrypto id => do
    let (lError, der, len) ← xReadPublicKeyFromPSACrypto b (c.publicKey id)
    pure (xPrvMbedtlsErrToPkiStatus lError, der, len)
  | .psaIts uid => readPublicBlob b c uid
  | .psaPs uid => readPublicBlob b c uid
  | .none => pure (.argInvalid, none, 0)

/-- The end of `lGenerateKeyPairECPsaCrypto`, after the public key was read: it is stored, and the outputs
are cleared on an error. -/
def importPublicKey (b : Block) (c : HeapCalls) :
    Status × Option (List UInt8) × Nat → HeapM (Int × Option (List UInt8) × Nat)
  | (xStatus, der, len) => do
    let xStatus := if xStatus = psaSuccess then c.importKey else xStatus
    if xStatus ≠ psaSuccess then
      free b der.isSome
      pure (mbedtlsPsaErrTranslatePk xStatus, none, 0)
    else pure (mbedtlsPsaErrTranslatePk xStatus, der, len)

/-- `lGenerateKeyPairECPsaCrypto` until the public key is read: the status. -/
def HeapCalls.generatePair (c : HeapCalls) (xPrvKeyId xPubKeyId : Nat) : Status :=
  if xPrvKeyId = 0 ∨ xPubKeyId = 0 then psaErrorInvalidHandle
  else
    let xStatus := maskInvalidHandle c.destroyPrv
    let xStatus := if xStatus = psaSuccess then c.destroyPub else xStatus
    let xStatus := maskInvalidHandle xStatus
    if xStatus = psaSuccess then c.generateKey else xStatus

/-- `lGenerateKeyPairECPsaCrypto`, with pointers that are not `NULL`. -/
def lGenerateKeyPairECPsaCrypto (b : Block) (c : HeapCalls) (xPrvKeyId xPubKeyId : Nat) :
    HeapM (Int × Option (List UInt8) × Nat) :=
  let xStatus := c.generatePair xPrvKeyId xPubKeyId
  if xStatus = psaSuccess then
    xReadPublicKeyFromPSACrypto b (c.publicKey xPrvKeyId) >>= importPublicKey b c
  else importPublicKey b c (xStatus, none, 0)

/-- `xPkiGenerateECKeypair`, with pointers that are not `NULL`: the status, `*ppucPubKeyDer` and
`*puxPubKeyDerLen`. -/
def xPkiGenerateECKeypair (b : Block) (c : HeapCalls) (pcPrvKeyLabel pcPubKeyLabel : List UInt8) :
    HeapM (PkiStatus × Option (List UInt8) × Nat) :=
  match xPkiObjectFromLabel pcPubKeyLabel with
  | .psaCrypto id => do
    let (lError, der, len) ←
      lGenerateKeyPairECPsaCrypto b c (xPkiObjectFromLabel pcPrvKeyLabel).cryptoId id
    pure (xPrvMbedtlsErrToPkiStatus lError, der, len)
  | _ => pure (.argInvalid, none, 0)

/-! ## Certificates -/

/-- `lReadCertificateFromPSACrypto`, with a context: its result, and what the context owns. -/
def lReadCertificateFromPSACrypto (c : HeapCalls) (xCertId : Nat) : HeapM (Int × Nat) := do
  let (xStatus, pucCertBuffer) ← xReadObjectFromPSACrypto .pucCertBuffer c.object c.calloc xCertId
  if xStatus = psaSuccess then
    let a := c.x509CrtParseDerNocopy pucCertBuffer
    let xStatus ← a.parse
    free .pucCertBuffer (xStatus ≠ psaSuccess)
    pure (mbedtlsPsaErrTranslatePk xStatus, a.owns)
  else pure (mbedtlsPsaErrTranslatePk xStatus, 0)

/-- A blob is parsed: PEM is copied; the buffer of DER is taken for the context's after a success. -/
def parseBlob (c : HeapCalls) (blob : Option (List UInt8)) : HeapM (Int × Nat) :=
  if looksPem (blob.getD []) then do
    let a := c.x509CrtParse blob
    let lError ← a.parse
    free .pucCertBuffer true
    pure (lError, a.owns)
  else do
    let a := c.x509CrtParseDerNocopy blob
    let lError ← a.parse
    free .pucCertBuffer (lError ≠ 0)
    pure (lError, a.owns)

/-- `lReadCertificateFromPsaIts` and `lReadCertificateFromPsaPS`, with a context. -/
def readCertificate (c : HeapCalls) (calls : StorageCalls) (xCertUid : Nat) : HeapM (Int × Nat) := do
  let (lError, pucCertBuffer) ← readObject .pucCertBuffer calls c.calloc xCertUid
  if lError = 0 then parseBlob c pucCertBuffer else pure (lError, 0)

/-- A certificate in a buffer. -/
def readCertificateBuffer (a : CrtAns) : HeapM (Int × Nat) := do
  let lError ← a.parse
  pure (lError, a.owns)

/-- `xPkiReadCertificate`: the status, and what the context owns. -/
def xPkiReadCertificate (c : HeapCalls) : PkiObject → HeapM (PkiStatus × Nat)
  | .pem pucBuffer => PkiStatus.of <$> readCertificateBuffer (c.x509CrtParse pucBuffer)
  | .der pucBuffer => PkiStatus.of <$> readCertificateBuffer (c.x509CrtParseDer pucBuffer)
  | .psaCrypto id => PkiStatus.of <$> lReadCertificateFromPSACrypto c id
  | .psaIts uid => PkiStatus.of <$> readCertificate c c.object.its uid
  | .psaPs uid => PkiStatus.of <$> readCertificate c c.object.ps uid
  | .none => pure (.argInvalid, 0)

/-! ## What is left -/

/-- A key context with nothing in it. -/
structure PkAns.Empty (a : PkAns) : Prop where
  pkCtx : a.pkCtx = false
  numbers : a.numbers = 0

/-- The block of an object in a storage is allocated. -/
structure Allocates (calls : StorageCalls) (calloc : Nat → Bool) (xObjectUid : Nat) : Prop where
  getInfo : (calls.getInfo xObjectUid).1 = psaSuccess
  calloc : calloc (calls.getInfo xObjectUid).2 = true

/-- What `psa_its_get` or `psa_ps_get` answers. -/
def StorageCalls.read (calls : StorageCalls) (xObjectUid : Nat) : Status × List UInt8 :=
  calls.get xObjectUid 0 (calls.getInfo xObjectUid).2

/-- `v` is what `xReadPublicKeyFromPSACrypto` comes to. -/
def Reads (env : PkiEnv) (v : ReadVars) : Prop :=
  env.getKeyAttributes.1 = psaSuccess ∧ ∃ size, pubKeyDerLen env env.getKeyAttributes.2.type = some size ∧
    env.calloc size = true ∧ (readSteps env env.getKeyAttributes.2 size).run.result = some (.ok v)

/-- `object` is what `xReadObjectFromPSACrypto` comes to. -/
def ReadsObject (env : ObjectEnv) (calloc : Nat → Bool) (id : Nat) (object : List UInt8) : Prop :=
  let attrs := (env.getKeyAttributes id).2
  let uxBufferLen := (attrs.bits.toNat + 7) / 8
  (env.getKeyAttributes id).1 = psaSuccess ∧ psaKeyTypeIsUnstructured attrs.type = true ∧
    calloc uxBufferLen = true ∧ env.exportKey id uxBufferLen = (psaSuccess, object)

/-- To read a private key takes nothing for good: no context is made of a key. -/
def HeapCalls.PrivateKeyFine (c : HeapCalls) : PkiObject → Prop
  | .pem pucBuffer => pucBuffer.getD [] = [] ∨ (c.pkParseKey pucBuffer).Empty
  | .der pucBuffer => pucBuffer.getD [] = [] ∨ (c.pkParseKey pucBuffer).Empty
  | .psaCrypto id => id = 0 ∨ c.psaPkCtxAlloc = false ∨ ∀ v, Reads (c.publicKey id) v →
      (c.pkParsePublicKey (v.buf.take v.uxBytesWritten)).Empty
  | .psaIts uid => BlobFine c.object.its uid
  | .psaPs uid => BlobFine c.object.ps uid
  | .none => True
where
  BlobFine (calls : StorageCalls) (uid : Nat) : Prop :=
    Allocates calls c.calloc uid → (StorageCalls.read calls uid).1 = psaSuccess ∧
      (c.pkParseKey (some (StorageCalls.read calls uid).2)).Empty

/-- To store a public key takes nothing for good: no buffer is granted for its point. -/
def HeapCalls.WritePubKeyFine (c : HeapCalls) (pk : PkContext) : PkiObject → Prop
  | .psaCrypto _ => pk.type = .eckey → c.pubKeyBuffer (pointSize pk) = false
  | _ => True

/-- A certificate that is read and released again takes nothing for good: its buffer is not left to the
context, which does not free it, and what is not released has nothing in it. -/
def HeapCalls.CertificateFine (c : HeapCalls) : PkiObject → Prop
  | .pem pucBuffer => CopyFine (c.x509CrtParse pucBuffer)
  | .der pucBuffer => CopyFine (c.x509CrtParseDer pucBuffer)
  | .psaCrypto id => ∀ object, ReadsObject c.object c.calloc id object →
      (c.x509CrtParseDerNocopy (some object)).owns = 0
  | .psaIts uid => BlobFine c.object.its uid
  | .psaPs uid => BlobFine c.object.ps uid
  | .none => True
where
  CopyFine (a : CrtAns) : Prop := 0 ≤ a.ret ∨ a.owns = 0
  BlobFine (calls : StorageCalls) (uid : Nat) : Prop :=
    let (xStatus, blob) := StorageCalls.read calls uid
    let a := c.x509CrtParseDerNocopy (some blob)
    Allocates calls c.calloc uid → xStatus = psaSuccess ∧
      if looksPem blob then CopyFine (c.x509CrtParse (some blob)) else a.ret ≠ 0 ∧ CopyFine a

/-- A public key whose DER is freed if there are bytes in it takes nothing for good. -/
def HeapCalls.PublicKeyFine (c : HeapCalls) : PkiObject → Prop
  | .psaIts uid => BlobFine uid
  | .psaPs uid => BlobFine uid
  | _ => True
where
  BlobFine (uid : Nat) : Prop := Allocates c.object.its c.calloc uid →
    (StorageCalls.read c.object.its uid).1 = psaSuccess ∧ (StorageCalls.read c.object.its uid).2 ≠ []

end Crypto.Blocks
