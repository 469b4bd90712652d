import TrustZone.Lib.Bytes
import TrustZone.Lib.Runs
import TrustZone.Psa.Defs

/-!
# The OTA PAL on PSA firmware update (`ota_pal.c`)

The globals (`Pal`), the agent's file contexts (`OtaFileContext`, read and written through
pointers) and each `otaPal_*` function as the source computes it: its answer, the globals after it
and the PSA calls it issues, in order. What a PSA call answers is free in every call (`Psa.Fwu`).
A call that dereferences `NULL` does not return.

`otaPal` is the machine whose calls are those of the OTA agent; between two of them the agent may
change its contexts (`Call.agent`).
-/

namespace Psa

/-- `psa_image_id_t`. -/
abbrev ImageId := BitVec 32

def tfmFwuInvalidImageId : ImageId := 0#32
def psaFwuMaxDigestSize : Nat := 32

def fwuImageIdSlotActive : BitVec 8 := 0x01#8
def fwuImageIdSlotStage : BitVec 8 := 0x02#8
def fwuImageTypeNonsecure : BitVec 32 := 0x01#32
def fwuImageTypeSecure : BitVec 32 := 0x02#32
def fwuImageTypeFull : BitVec 32 := 0x03#32

/-- `FWU_CALCULATE_IMAGE_ID(slot, type, specific_id)`. -/
def fwuCalculateImageId (slot : BitVec 8) (type specificId : BitVec 32) : ImageId :=
  (slot.setWidth 32 &&& 0x00FF#32) ||| (type <<< 8) ||| (specificId <<< 16)

def psaImageUndefined : BitVec 8 := 0
def psaImageInstalled : BitVec 8 := 2
def psaImagePendingInstall : BitVec 8 := 4

/-- `psa_image_info_t`, without the version. -/
structure ImageInfo where
  state : BitVec 8
  digest : List UInt8

/-- A call into the firmware update or crypto service. -/
inductive FwuCall
  | query (id : ImageId)
  | verifyHash (key : BitVec 32) (alg : Algorithm) (hash sig : List UInt8)
  | write (id : ImageId) (offset : BitVec 32) (block : List UInt8)
  | install (id : ImageId)
  | requestReboot
  | abort (id : ImageId)
  | accept (id : ImageId)
  deriving DecidableEq

/-- What the services answer during one call of the PAL: the `i`-th write of the call has status
`write i`; `psa_fwu_request_reboot` restarts the device or returns. The bound on a write is that of the
service's header. -/
structure Fwu where
  psaFwuMaxBlockSize : { n : Nat // 0 < n }
  query : ImageId → Status × ImageInfo
  verifyHash : Status
  write : Nat → Status
  install : Status
  requestReboot : Bool
  abort : Status
  accept : Status

end Psa

namespace Ota

open Psa Lib

/-! ## Data -/

/-- `OtaPalMainStatus_t`, the values this PAL returns. -/
inductive OtaPalMainStatus
  | success | uninitialized | rxFileCreateFailed | signatureCheckFailed | activateFailed
  | abortFailed | commitFailed | badImageState
  deriving DecidableEq

/-- `OtaPalStatus_t`: the main status and the 24-bit sub error. -/
structure OtaPalStatus where
  main : OtaPalMainStatus
  sub : BitVec 24
  deriving DecidableEq

/-- `OTA_PAL_COMBINE_ERR(main, sub)`. -/
def otaPalCombineErr (main : OtaPalMainStatus) (sub : BitVec 24) : OtaPalStatus := ⟨main, sub⟩

/-- `OTA_PAL_SUB_ERR(err)`: the low 24 bits. -/
def otaPalSubErr (err : Status) : BitVec 24 := BitVec.ofInt 24 err

/-- `OtaImageState_t`; `other` is any value outside the enumeration. -/
inductive OtaImageState
  | unknown | testing | accepted | rejected | aborted | other (n : Nat)
  deriving DecidableEq

/-- `OtaPalImageState_t`. -/
inductive OtaPalImageState
  | unknown | pendingCommit | valid | invalid
  deriving DecidableEq

/-- `Sig256_t`: the declared size and the memory at `data`. -/
structure Sig256 where
  size : Nat
  data : Nat → UInt8

/-- What `pFile` points to. -/
inductive PFile
  | null | xOTAImageID | other (p : Nat)
  deriving DecidableEq

/-- `OtaFileContext_t`: the path is a C string (its bytes before the NUL). -/
structure OtaFileContext where
  pFilePath : Option (List UInt8)
  pSignature : Option Sig256
  pFile : PFile

/-- A non-`NULL` context pointer. -/
abbrev CtxPtr := Nat

/-- The globals of `ota_pal.c`. -/
structure Pal where
  pxSystemContext : Option CtxPtr
  xOTAImageID : ImageId
  ucECDSARAWSignature : List UInt8
  deriving DecidableEq

def xOTACodeVerifyKeyHandle : BitVec 32 := 0x00000011#32

def ecdsaSha256RawSignatureLength : Nat := 64

/-- The globals at boot. -/
def Pal.boot : Pal where
  pxSystemContext := none
  xOTAImageID := tfmFwuInvalidImageId
  ucECDSARAWSignature := List.replicate ecdsaSha256RawSignatureLength 0

/-! ## Functions -/

/-- `prvConvertToRawECDSASignature`, on the memory at `pucEncodedSignature`: the answer and the
raw signature it leaves. -/
def prvConvertToRawECDSASignature (enc : Nat → UInt8) : Bool × List UInt8 :=
  let zeroed := List.replicate ecdsaSha256RawSignatureLength (0 : UInt8)
  let rLen := (enc 3).toNat
  -- the R component, and where the length of the S component is
  let r : Option (List UInt8 × Nat) :=
    if rLen = 33 then some (blit zeroed 0 (slice enc 5 32), 5 + 32 + 1)
    else if rLen ≤ 32 then some (blit zeroed (32 - rLen) (slice enc 4 rLen), 4 + rLen + 1)
    else none
  match r with
  | none => (false, zeroed)
  | some (raw, pxNextLength) =>
    let sLen := (enc pxNextLength).toNat
    if sLen = 33 then (true, blit raw 32 (slice enc (pxNextLength + 2) 32))
    else if sLen ≤ 32 then (true, blit raw (64 - sLen) (slice enc (pxNextLength + 1) sLen))
    else (false, raw)

/-- What `prvConvertToRawECDSASignature` reads of a component whose contents are at `contents`. -/
def componentReads (contents len : Nat) : List Nat :=
  if len = 33 then List.range' (contents + 1) 32
  else if len ≤ 32 then List.range' contents len
  else []

/-- The offsets that `prvConvertToRawECDSASignature` reads: the length of the R component and the
component, then those of the S component. -/
def prvConvertToRawECDSASignatureReads (enc : Nat → UInt8) : List Nat :=
  let rLen := (enc 3).toNat
  let pxNextLength := 4 + rLen + 1
  3 :: (componentReads 4 rLen ++
    if rLen ≤ 33 then pxNextLength :: componentReads (pxNextLength + 1) (enc pxNextLength).toNat
    else [])

def secureImage : List UInt8 := ascii "secure image"
def nonSecureImage : List UInt8 := ascii "non_secure image"
def fullImage : List UInt8 := ascii "full image"

/-- The image type `CalculatePSAImageID` reads off a path; `memcmp` over the length of the
literal holds when the literal is a prefix of the path. -/
def imageType? (path : List UInt8) : Option (BitVec 32) :=
  if secureImage.isPrefixOf path then some fwuImageTypeSecure
  else if nonSecureImage.isPrefixOf path then some fwuImageTypeNonsecure
  else if fullImage.isPrefixOf path then some fwuImageTypeFull
  else none

/-- `CalculatePSAImageID`: the status, and what it leaves in `*pxImageID`, which holds the invalid
id in every caller. -/
def calculatePSAImageID (slot : BitVec 8) (pFileContext : Option OtaFileContext) :
    OtaPalStatus × ImageId :=
  match pFileContext.bind (·.pFilePath) with
  | none => (otaPalCombineErr .uninitialized 0, tfmFwuInvalidImageId)
  | some path =>
    match imageType? path with
    | none => (otaPalCombineErr .rxFileCreateFailed 0, tfmFwuInvalidImageId)
    | some ulImageType =>
      (otaPalCombineErr .success 0, fwuCalculateImageId slot ulImageType 0)

/-- The globals and the memory the contexts live in. -/
structure State where
  pal : Pal
  ctxs : CtxPtr → OtaFileContext

/-- The context behind a pointer. -/
def State.ctx (s : State) (pFileContext : Option CtxPtr) : Option OtaFileContext :=
  pFileContext.map s.ctxs

/-- What a call answers. -/
inductive Ret
  | status (st : OtaPalStatus)
  | int16 (n : Int)
  | imageState (st : OtaPalImageState)
  /-- the device restarted, or nothing was called -/
  | none
  deriving DecidableEq

/-- The answer of a call and the PSA calls it issued. -/
structure Reply where
  ret : Ret
  calls : List FwuCall
  deriving DecidableEq

/-- `otaPal_Abort`. -/
def otaPalAbort (psa : Fwu) (s : State) (pFileContext : Option CtxPtr) : State × Reply :=
  if pFileContext = none ∨ (pFileContext ≠ s.pal.pxSystemContext ∧ s.pal.pxSystemContext ≠ none) then
    (s, ⟨.status (otaPalCombineErr .abortFailed 0), []⟩)
  else if s.pal.pxSystemContext = none then
    (s, ⟨.status (otaPalCombineErr .success 0), []⟩)
  else if psa.abort ≠ psaSuccess then
    (s, ⟨.status (otaPalCombineErr .abortFailed 0), [.abort s.pal.xOTAImageID]⟩)
  else
    ({ s with pal := { s.pal with pxSystemContext := none, xOTAImageID := 0 } },
      ⟨.status (otaPalCombineErr .success 0), [.abort s.pal.xOTAImageID]⟩)

/-- `otaPal_CreateFileForRx`. -/
def otaPalCreateFileForRx (s : State) (pFileContext : Option CtxPtr) : State × Reply :=
  match pFileContext with
  | none => (s, ⟨.status (otaPalCombineErr .rxFileCreateFailed 0), []⟩)
  | some p =>
    if (s.ctxs p).pFilePath = none then
      (s, ⟨.status (otaPalCombineErr .rxFileCreateFailed 0), []⟩)
    else
      let (st, ulImageID) := calculatePSAImageID fwuImageIdSlotStage (some (s.ctxs p))
      if st ≠ otaPalCombineErr .success 0 then
        (s, ⟨.status (otaPalCombineErr .rxFileCreateFailed 0), []⟩)
      else
        ({ pal := { s.pal with pxSystemContext := some p, xOTAImageID := ulImageID },
           ctxs := Function.update s.ctxs p { s.ctxs p with pFile := .xOTAImageID } },
          ⟨.status (otaPalCombineErr .success 0), []⟩)

/-- `otaPal_CheckSignature`; a `NULL` context or signature is dereferenced after the query. -/
def otaPalCheckSignature (psa : Fwu) (s : State) (pFileContext : Option CtxPtr) :
    Option (State × Reply) :=
  let (uxStatus, xImageInfo) := psa.query s.pal.xOTAImageID
  if uxStatus ≠ psaSuccess then
    some (s, ⟨.status (otaPalCombineErr .signatureCheckFailed (otaPalSubErr uxStatus)),
      [.query s.pal.xOTAImageID]⟩)
  else
    match (s.ctx pFileContext).bind (·.pSignature) with
    | none => none
    | some pSignature =>
      let (ok, raw) := prvConvertToRawECDSASignature pSignature.data
      let s' := { s with pal := { s.pal with ucECDSARAWSignature := raw } }
      if ok = false then
        some (s', ⟨.status (otaPalCombineErr .signatureCheckFailed 0), [.query s.pal.xOTAImageID]⟩)
      else
        let calls := [.query s.pal.xOTAImageID, .verifyHash xOTACodeVerifyKeyHandle
          (psaAlgEcdsa psaAlgSha256) xImageInfo.digest raw]
        if psa.verifyHash ≠ psaSuccess then
          some (s', ⟨.status (otaPalCombineErr .signatureCheckFailed (otaPalSubErr psa.verifyHash)),
            calls⟩)
        else
          some (s', ⟨.status (otaPalCombineErr .success 0), calls⟩)

/-- `otaPal_CloseFile`. -/
def otaPalCloseFile (psa : Fwu) (s : State) (pFileContext : Option CtxPtr) :
    Option (State × Reply) :=
  otaPalCheckSignature psa s pFileContext

/-- `ulWriteLength` in the loop of `otaPal_WriteBlock`. -/
def ulWriteLength (psa : Fwu) (ulBlockSize : Nat) : Nat :=
  if ulBlockSize ≤ psa.psaFwuMaxBlockSize then ulBlockSize else psa.psaFwuMaxBlockSize

theorem ulWriteLength_pos {psa : Fwu} {n : Nat} (h : 0 < n) : 0 < ulWriteLength psa n := by
  unfold ulWriteLength
  split
  · exact h
  · exact psa.psaFwuMaxBlockSize.2

/-- The loop of `otaPal_WriteBlock`: `ulBlockSize` bytes remain, `ulDoneLength` are written by `n`
writes. Whether every write succeeded, the bytes done, and the writes issued. -/
def writeLoop (psa : Fwu) (id : ImageId) (ulOffset : BitVec 32) (pcData : Nat → UInt8)
    (ulBlockSize ulDoneLength n : Nat) : Bool × Nat × List FwuCall :=
  if 0 < ulBlockSize then
    let call : FwuCall := .write id (ulOffset + BitVec.ofNat 32 ulDoneLength)
      (slice pcData ulDoneLength (ulWriteLength psa ulBlockSize))
    if psa.write n ≠ psaSuccess then (false, ulDoneLength, [call])
    else
      let (ok, done, calls) := writeLoop psa id ulOffset pcData
        (ulBlockSize - ulWriteLength psa ulBlockSize) (ulDoneLength + ulWriteLength psa ulBlockSize)
        (n + 1)
      (ok, done, call :: calls)
  else (true, ulDoneLength, [])
termination_by ulBlockSize
decreasing_by
  have := @ulWriteLength_pos psa _ ‹0 < ulBlockSize›
  omega

/-- `otaPal_WriteBlock`: the length written is returned as an `int16_t`. -/
def otaPalWriteBlock (psa : Fwu) (s : State) (pFileContext : Option CtxPtr) (ulOffset : BitVec 32)
    (pcData : Nat → UInt8) (ulBlockSize : BitVec 32) : State × Reply :=
  if pFileContext = none ∨ pFileContext ≠ s.pal.pxSystemContext ∨
      s.pal.xOTAImageID = tfmFwuInvalidImageId then
    (s, ⟨.int16 (-1), []⟩)
  else
    let (ok, ulDoneLength, calls) :=
      writeLoop psa s.pal.xOTAImageID ulOffset pcData ulBlockSize.toNat 0 0
    if ok then (s, ⟨.int16 (BitVec.ofNat 16 ulDoneLength).toInt, calls⟩)
    else (s, ⟨.int16 (-1), calls⟩)

/-- `otaPal_ResetDevice`: the device restarts, with the globals as at boot, or the call returns. -/
def otaPalResetDevice (psa : Fwu) (s : State) : State × Reply :=
  if psa.requestReboot then ({ s with pal := .boot }, ⟨.none, [.requestReboot]⟩)
  else (s, ⟨.status (otaPalCombineErr .activateFailed 0), [.requestReboot]⟩)

/-- `otaPal_ActivateNewImage`. -/
def otaPalActivateNewImage (psa : Fwu) (s : State) (pFileContext : Option CtxPtr) : State × Reply :=
  if pFileContext = none ∨ pFileContext ≠ s.pal.pxSystemContext ∨
      s.pal.xOTAImageID = tfmFwuInvalidImageId then
    (s, ⟨.status (otaPalCombineErr .activateFailed 0), []⟩)
  else
    let install : FwuCall := .install s.pal.xOTAImageID
    if psa.install = psaSuccessReboot then
      let (s', reply) := otaPalResetDevice psa s
      (s', { reply with calls := install :: reply.calls })
    else if psa.install = psaSuccess then
      (s, ⟨.status (otaPalCombineErr .success 0), [install]⟩)
    else
      (s, ⟨.status (otaPalCombineErr .activateFailed (otaPalSubErr psa.install)), [install]⟩)

/-- `otaPal_SetPlatformImageState`. -/
def otaPalSetPlatformImageState (psa : Fwu) (s : State) (pFileContext : Option CtxPtr)
    (eState : OtaImageState) : State × Reply :=
  if s.pal.pxSystemContext = none then
    match eState with
    | .accepted =>
      let (st, ulImageID) := calculatePSAImageID fwuImageIdSlotActive (s.ctx pFileContext)
      if st ≠ otaPalCombineErr .success 0 then
        (s, ⟨.status (otaPalCombineErr .commitFailed 0), []⟩)
      else if psa.accept ≠ psaSuccess then
        (s, ⟨.status (otaPalCombineErr .commitFailed (otaPalSubErr psa.accept)),
          [.accept ulImageID]⟩)
      else (s, ⟨.status (otaPalCombineErr .success 0), [.accept ulImageID]⟩)
    | .rejected => (s, ⟨.status (otaPalCombineErr .success 0), []⟩)
    | .testing => (s, ⟨.status (otaPalCombineErr .success 0), []⟩)
    | .aborted => (s, ⟨.status (otaPalCombineErr .success 0), []⟩)
    | .unknown | .other _ => (s, ⟨.status (otaPalCombineErr .badImageState 0), []⟩)
  else if eState = .accepted then (s, ⟨.status (otaPalCombineErr .commitFailed 0), []⟩)
  else (s, ⟨.status (otaPalCombineErr .success 0), []⟩)

/-- `prvGetImageState`, through `prvGetImageInfo`: the state, and the id it queries. -/
def prvGetImageState (psa : Fwu) (ucSlot : BitVec 8) (ulImageType : BitVec 32) :
    BitVec 8 × ImageId :=
  let ulImageID := fwuCalculateImageId ucSlot ulImageType 0
  let (xPSAStatus, xImageInfo) := psa.query ulImageID
  (if xPSAStatus = psaSuccess then xImageInfo.state else psaImageUndefined, ulImageID)

/-- `otaPal_GetPlatformImageState`; a `NULL` context is dereferenced. -/
def otaPalGetPlatformImageState (psa : Fwu) (s : State) (pFileContext : Option CtxPtr) :
    Option (State × Reply) :=
  let ucSlot := if s.pal.pxSystemContext = none then fwuImageIdSlotActive else fwuImageIdSlotStage
  match s.ctx pFileContext with
  | none => none
  | some ctx =>
    if ctx.pFilePath = none ∨ ctx.pFilePath = some [] then
      let (ucSecureState, i) := prvGetImageState psa ucSlot fwuImageTypeSecure
      let (ucNonSecureState, j) := prvGetImageState psa ucSlot fwuImageTypeNonsecure
      let st : OtaPalImageState :=
        if ucSecureState = psaImagePendingInstall ∨ ucNonSecureState = psaImagePendingInstall then
          .pendingCommit
        else if ucSecureState = psaImageInstalled ∧ ucNonSecureState = psaImageInstalled then .valid
        else .invalid
      some (s, ⟨.imageState st, [.query i, .query j]⟩)
    else
      let (st, ulImageID) := calculatePSAImageID ucSlot (some ctx)
      if st ≠ otaPalCombineErr .success 0 then some (s, ⟨.imageState .invalid, []⟩)
      else
        let (uxStatus, xImageInfo) := psa.query ulImageID
        let st : OtaPalImageState :=
          if uxStatus ≠ psaSuccess then .invalid
          else if xImageInfo.state = psaImagePendingInstall then .pendingCommit
          else if xImageInfo.state = psaImageInstalled then .valid
          else .invalid
        some (s, ⟨.imageState st, [.query ulImageID]⟩)

/-! ## The machine -/

/-- A call of the OTA agent, or what happens between two calls. -/
inductive Call
  | createFileForRx (pFileContext : Option CtxPtr)
  | writeBlock (pFileContext : Option CtxPtr) (ulOffset : BitVec 32) (pcData : Nat → UInt8)
      (ulBlockSize : BitVec 32)
  | closeFile (pFileContext : Option CtxPtr)
  | activateNewImage (pFileContext : Option CtxPtr)
  | abort (pFileContext : Option CtxPtr)
  | setPlatformImageState (pFileContext : Option CtxPtr) (eState : OtaImageState)
  | getPlatformImageState (pFileContext : Option CtxPtr)
  | resetDevice (pFileContext : Option CtxPtr)
  /-- the agent changes its contexts -/
  | agent (ctxs : CtxPtr → OtaFileContext)
  /-- the device restarts -/
  | reboot

/-- One call, with what the PSA services answer during it. -/
def step (s : State) : Call × Fwu → Option (State × Reply)
  | (.createFileForRx p, _) => some (otaPalCreateFileForRx s p)
  | (.writeBlock p off data size, psa) => some (otaPalWriteBlock psa s p off data size)
  | (.closeFile p, psa) => otaPalCloseFile psa s p
  | (.activateNewImage p, psa) => some (otaPalActivateNewImage psa s p)
  | (.abort p, psa) => some (otaPalAbort psa s p)
  | (.setPlatformImageState p e, psa) => some (otaPalSetPlatformImageState psa s p e)
  | (.getPlatformImageState p, psa) => otaPalGetPlatformImageState psa s p
  | (.resetDevice _, psa) => some (otaPalResetDevice psa s)
  | (.agent ctxs, _) => some ({ s with ctxs := ctxs }, ⟨.none, []⟩)
  | (.reboot, _) => some ({ s with pal := .boot }, ⟨.none, []⟩)

/-- The OTA PAL. -/
def otaPal : Machine State (Call × Fwu) Reply := ⟨step⟩

/-- The state at boot, whatever the contexts hold. -/
def State.boot (ctxs : CtxPtr → OtaFileContext) : State := ⟨.boot, ctxs⟩

end Ota
