import TrustZone.Pkcs11.Module

/-!
# Searching for objects

`C_FindObjectsInit`, `C_FindObjects` and `C_FindObjectsFinal`: a search looks at the object list
first, then asks PSA for the object that the label stands for, and lists it. A search writes the
caller's count only when it finds something.
-/

namespace Pkcs11

open Lib Psa

/-- The fixed PSA key ids and storage uids. -/
def psaDevicePrivateKeyId : KeyHandle := 0x01
def psaDevicePublicKeyId : KeyHandle := 0x10
def psaCodeVerificationKeyId : KeyHandle := 0x11
def psaDeviceCertificateUid : Nat := 5
def psaJitpCertificateUid : Nat := 6
def psaRootCertificateUid : Nat := 7

/-- `P11ObjectHandles_t`: the PAL handles. -/
def eAwsDevicePrivateKey : ObjectHandle := 1
def eAwsDevicePublicKey : ObjectHandle := 2
def eAwsDeviceCertificate : ObjectHandle := 3
def eAwsCodeVerifyingKey : ObjectHandle := 4
def eAwsJitpCertificate : ObjectHandle := 5
def eAwsRootCertificate : ObjectHandle := 6

def pkcs11ObjectHandleNa : KeyHandle := 0

/-- `CK_ATTRIBUTE`: whether the type is `CKA_LABEL`, and the value. -/
structure Attribute where
  isLabel : Bool
  value : List UInt8

/-- What the services answer during a search: `psa_open_key`, `psa_ps_get_info`, whether memory is
granted and whether the mutex of the list is taken. -/
structure FindEnv where
  openKey : KeyHandle → Status × KeyHandle
  psGetInfo : Nat → Status
  malloc : Bool
  lock : Bool

/-- The loop of `C_FindObjectsInit` over the template: copy every label into the buffer. -/
def copyLabels : List Attribute → List UInt8 → CkRv → Option (CkRv × List UInt8)
  | [], buf, xResult => some (xResult, buf)
  | a :: as, buf, xResult =>
    if a.isLabel then
      if a.value.length ≤ buf.length then copyLabels as (blit buf 0 a.value) .ok else none
    else copyLabels as buf xResult

/-- `C_FindObjectsInit`. The buffer has the length of the first attribute, plus one. -/
def cFindObjectsInit (env : FindEnv) (s : State) (xSession : SessionHandle)
    (pxTemplate : Option (List Attribute)) : Option (CkRv × State) :=
  match pxTemplate with
  | none => some (.argumentsBad, s)
  | some [] => some (.argumentsBad, s)
  | some (a :: as) =>
    if as.length ≠ 0 ∧ as.length ≠ 1 then some (.argumentsBad, s)
    else
      match sessionCheck s xSession with
      | .error e => some (e, s)
      | .ok h =>
        if (s.sessions h).pxFindObjectLabel ≠ none then some (.operationActive, s)
        else if env.malloc then
          match copyLabels (a :: as) (List.replicate (a.value.length + 1) 0) .templateIncomplete with
          | none => none
          | some (.ok, buf) =>
            some (.ok, s.setSession h { s.sessions h with pxFindObjectLabel := some buf })
          | some (e, _) => some (e, s)
        else some (.hostMemory, s)

/-- What `C_FindObjects` leaves: its result, `*pxObject`, `*pulObjectCount` and the state. -/
structure Found where
  rv : CkRv
  pxObject : ObjectHandle
  pulObjectCount : Nat
  post : State

/-- `FindKeyObjects`: `label` is the string in the session, `r` what `C_FindObjects` has so far. -/
def findKeyObjects (env : FindEnv) (label : List UInt8) (xKeyId : KeyHandle)
    (xPalHandle : ObjectHandle) (r : Found) : Found :=
  let (xResult, uxStatus, cfg) :=
    if (pkcs11PsaGetKeyHandle r.post.p11KeyConfig label).1 = .ok then
      (CkRv.ok, psaSuccess, r.post.p11KeyConfig)
    else
      let (uxStatus, uxPsaDeviceKeyHandle) := env.openKey xKeyId
      if uxStatus = psaSuccess then
        (.ok, uxStatus, pkcs11PsaContextImportObject r.post.p11KeyConfig label uxPsaDeviceKeyHandle)
      else if uxStatus ≠ psaErrorDoesNotExist then
        (.functionFailed, uxStatus, r.post.p11KeyConfig)
      else (.ok, uxStatus, r.post.p11KeyConfig)
  if xResult = .ok ∧ uxStatus = psaSuccess then
    match prvAddObjectToList env.lock r.post.xObjectList xPalHandle label with
    | (.ok, some uxObjectHandle, l) =>
      ⟨.ok, uxObjectHandle, 1, { r.post with p11KeyConfig := cfg, xObjectList := l }⟩
    | (rv, _, l) =>
      { r with rv := rv, post := { r.post with p11KeyConfig := cfg, xObjectList := l } }
  else { r with rv := xResult, post := { r.post with p11KeyConfig := cfg } }

/-- The branch of `C_FindObjects` for a certificate. -/
def findCertificate (env : FindEnv) (label : List UInt8) (uid : Nat) (xPalHandle : ObjectHandle)
    (r : Found) : Found :=
  let uxStatus := env.psGetInfo uid
  if uxStatus = psaSuccess then
    match prvAddObjectToList env.lock r.post.xObjectList xPalHandle label with
    | (.ok, some uxObjectHandle, l) =>
      let cfg := pkcs11PsaContextImportObject r.post.p11KeyConfig label pkcs11ObjectHandleNa
      ⟨.ok, uxObjectHandle, 1, { r.post with xObjectList := l, p11KeyConfig := cfg }⟩
    | (rv, _, l) => { r with rv := rv, post := { r.post with xObjectList := l } }
  else if uxStatus ≠ psaErrorDoesNotExist then { r with rv := .functionFailed }
  else r

/-- `C_FindObjects` past its checks, with `xResult` so far: `label` is the string in the session. -/
def findByLabel (env : FindEnv) (s : State) (xResult : CkRv) (label : List UInt8) (count : Nat) :
    Found :=
  let (_, pxObject) := prvFindObjectInListByLabel s.xObjectList label
  let r : Found := ⟨xResult, pxObject, count, s⟩
  if pxObject ≠ ckInvalidHandle then { r with pulObjectCount := 1 }
  else if label = labelDevicePrivateKeyForTls then
    findKeyObjects env label psaDevicePrivateKeyId eAwsDevicePrivateKey r
  else if label = labelDevicePublicKeyForTls then
    findKeyObjects env label psaDevicePublicKeyId eAwsDevicePublicKey r
  else if label = labelCodeVerificationKey then
    findKeyObjects env label psaCodeVerificationKeyId eAwsCodeVerifyingKey r
  else if label = labelDeviceCertificateForTls then
    findCertificate env label psaDeviceCertificateUid eAwsDeviceCertificate r
  else if label = labelRootCertificate then
    findCertificate env label psaRootCertificateUid eAwsRootCertificate r
  else if label = labelJitpCertificate then
    findCertificate env label psaJitpCertificateUid eAwsJitpCertificate r
  else r

/-- `C_FindObjects` into two pointers that are not `NULL`, with what they point to. A failed session
check does not end the call: it goes on with the session's label, and returns only if there is one. -/
def cFindObjects (env : FindEnv) (s : State) (xSession : SessionHandle) (pxObject : ObjectHandle)
    (ulMaxObjectCount pulObjectCount : Nat) : Option Found :=
  match sessionCheck s xSession with
  | .error e =>
    match xSession.bind fun h => (s.sessions h).pxFindObjectLabel with
    | none => none
    | some buf => some (findByLabel env s e (cstr buf) pulObjectCount)
  | .ok h =>
    match (s.sessions h).pxFindObjectLabel with
    | none =>
      let rv := if ulMaxObjectCount = 0 then .argumentsBad else .operationNotInitialized
      some ⟨rv, pxObject, pulObjectCount, s⟩
    | some buf =>
      if ulMaxObjectCount = 0 then some ⟨.argumentsBad, pxObject, pulObjectCount, s⟩
      else some (findByLabel env s .ok (cstr buf) pulObjectCount)

/-- `C_FindObjectsFinal`. -/
def cFindObjectsFinal (s : State) (xSession : SessionHandle) : CkRv × State :=
  match sessionCheck s xSession with
  | .error e => (e, s)
  | .ok h =>
    if (s.sessions h).pxFindObjectLabel = none then (.operationNotInitialized, s)
    else (.ok, s.setSession h { s.sessions h with pxFindObjectLabel := none })

/-- What the three calls of a search leave. -/
structure Search where
  init : CkRv
  find : CkRv
  final : CkRv
  pxObject : ObjectHandle
  pulObjectCount : Nat
  post : State

/-- A search for one label, from what `*pxObject` and `*pulObjectCount` hold: the three calls, each in
the state that the one before left. -/
def searchRun (env : FindEnv) (s : State) (xSession : SessionHandle) (label : List UInt8)
    (pxObject : ObjectHandle) (count : Nat) : Option Search :=
  match cFindObjectsInit env s xSession (some [⟨true, label⟩]) with
  | none => none
  | some (rv1, s1) =>
    match cFindObjects env s1 xSession pxObject 1 count with
    | none => none
    | some r =>
      let (rv3, s3) := cFindObjectsFinal r.post xSession
      some ⟨rv1, r.rv, rv3, r.pxObject, r.pulObjectCount, s3⟩

end Pkcs11
