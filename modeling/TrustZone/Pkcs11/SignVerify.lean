import TrustZone.Lib.Runs
import TrustZone.Pkcs11.Find

/-!
# Signing and verifying

`C_SignInit`, `C_Sign`, `C_VerifyInit` and `C_Verify`, and the machine of a module that is called with
them, in any order and on any sessions.

`C_VerifyInit` zeroes the signing key when its key handle is invalid, and checks the mechanism
against the signing algorithm of the session.
-/

namespace Pkcs11

open Lib Psa

def pkcs11DerEncodedOidP256Length : Nat := 19
def pkcs11Rsa2048SignatureLength : Nat := 256
def pkcs11RsaSignatureInputLength : Nat := 51
def pkcs11EcdsaP256SignatureLength : Nat := 64
def pkcs11Sha256DigestLength : Nat := 32

/-- What the services answer in one call: whether the mutex is taken, `psa_get_key_attributes` (with
the algorithm), `psa_sign_hash` (with what it stores) and `psa_verify_hash`. -/
structure SignEnv where
  lock : Bool
  getKeyAttributes : KeyHandle → Status × Algorithm
  signHash : KeyHandle → Algorithm → List UInt8 → Nat → Status × List UInt8
  verifyHash : KeyHandle → Algorithm → List UInt8 → List UInt8 → Status

/-- The mechanism check, where `rsa` is the RSA mechanism of the operation. -/
def checkMechanism (rsa mechanism : MechanismType) (alg : Algorithm) : CkRv :=
  if mechanism = rsa then
    if ¬psaAlgIsRsaPkcs1v15Sign alg ∧ ¬psaAlgIsRsaPss alg then .keyTypeInconsistent else .ok
  else if mechanism = ckmEcdsa then
    if ¬psaAlgIsEcdsa alg then .keyTypeInconsistent else .ok
  else .mechanismInvalid

/-! ## Signing -/

/-- `C_SignInit` with the mutex: the key of the label, and its algorithm. -/
def loadSignKey (env : SignEnv) (cfg : P11KeyConfig) (xPalHandle : ObjectHandle)
    (pcLabel : List UInt8) (x : P11Session) : CkRv × P11Session :=
  if xPalHandle = eAwsDevicePrivateKey then
    match pkcs11PsaGetKeyHandle cfg pcLabel with
    | (.ok, uxKeyHandle) =>
      let (uxStatus, alg) := env.getKeyAttributes uxKeyHandle
      if uxStatus = psaSuccess then
        (.ok, { x with uxSignKey := uxKeyHandle, xSignAlgorithm := alg })
      else (.functionFailed, { x with uxSignKey := uxKeyHandle })
    | _ => (.functionFailed, x)
  else (.keyHandleInvalid, { x with uxSignKey := 0 })

/-- `C_SignInit`. -/
def cSignInit (env : SignEnv) (s : State) (xSession : SessionHandle)
    (pxMechanism : Option MechanismType) (xKey : ObjectHandle) : CkRv × State :=
  match sessionCheck s xSession with
  | .error e => (e, s)
  | .ok h =>
    match pxMechanism with
    | none => (.argumentsBad, s)
    | some mechanism =>
      let (xPalHandle, pcLabel) := prvFindObjectInListByHandle s.xObjectList xKey
      if xPalHandle = ckInvalidHandle then (.keyHandleInvalid, s)
      else if env.lock then
        match loadSignKey env s.p11KeyConfig xPalHandle (pcLabel.getD []) (s.sessions h) with
        | (.ok, x) =>
          match checkMechanism ckmRsaPkcs mechanism x.xSignAlgorithm with
          | .ok => (.ok, s.setSession h { x with xSignMechanism := mechanism })
          | e => (e, s.setSession h x)
        | (e, x) => (e, s.setSession h x)
      else (.cantLock, s)

/-- What a signing mechanism expects: the length of the signature and of the data, and the data that
is signed (without the `AlgorithmIdentifier` in front of an RSA digest). -/
def signLengths (mechanism : MechanismType) (pucData : List UInt8) :
    Option (Nat × Nat × List UInt8) :=
  if mechanism = ckmRsaPkcs then
    some (pkcs11Rsa2048SignatureLength, pkcs11RsaSignatureInputLength,
      pucData.drop pkcs11DerEncodedOidP256Length)
  else if mechanism = ckmEcdsa then
    some (pkcs11EcdsaP256SignatureLength, pkcs11Sha256DigestLength, pucData)
  else none

/-- `C_Sign` past its session check: the result, and what `psa_sign_hash` stores. `pulSignatureLen` is
`none` for `NULL`, and `pucSignature` tells whether there is a buffer. -/
def signData (env : SignEnv) (x : P11Session) (pucData : Option (List UInt8)) (pucSignature : Bool)
    (pulSignatureLen : Option Nat) : CkRv × Option (List UInt8) :=
  match pulSignatureLen, pucData with
  | some len, some data =>
    match signLengths x.xSignMechanism data with
    | none => (.operationNotInitialized, none)
    | some (xSignatureLength, xExpectedInputLength, toBeSigned) =>
      if pucSignature then
        if len < xSignatureLength then (.bufferTooSmall, none)
        else if xExpectedInputLength ≠ data.length then (.dataLenRange, none)
        else if env.lock then
          if x.uxSignKey = 0 then (.keyHandleInvalid, none)
          else
            let (uxStatus, sig) := env.signHash x.uxSignKey x.xSignAlgorithm toBeSigned len
            (if uxStatus ≠ psaSuccess then .functionFailed else .ok, some sig)
        else (.cantLock, none)
      else (.ok, none)
  | _, _ => (.argumentsBad, none)

/-- `C_Sign`. It ends the operation through the session pointer also when the session check fails,
and does not return when that is `NULL`. -/
def cSign (env : SignEnv) (s : State) (xSession : SessionHandle) (pucData : Option (List UInt8))
    (pucSignature : Bool) (pulSignatureLen : Option Nat) :
    Option ((CkRv × Option (List UInt8)) × State) :=
  match xSession with
  | none => none
  | some h =>
    let r :=
      match sessionCheck s xSession with
      | .error e => (e, none)
      | .ok h => signData env (s.sessions h) pucData pucSignature pulSignatureLen
    if r.1 ≠ .bufferTooSmall then
      some (r, s.setSession h { s.sessions h with xSignMechanism := pkcs11NoOperation })
    else some (r, s)

/-- What `C_Sign` leaves in `*pulSignatureLen`: `psa_sign_hash` alone writes it. -/
def signatureLen (pulSignatureLen : Option Nat) : Option (List UInt8) → Option Nat
  | some sig => some sig.length
  | none => pulSignatureLen

/-! ## Verifying -/

/-- `C_VerifyInit` with the mutex: the key of the label, and its algorithm. -/
def loadVerifyKey (env : SignEnv) (cfg : P11KeyConfig) (pcLabel : List UInt8) (x : P11Session) :
    CkRv × P11Session :=
  match pkcs11PsaGetKeyHandle cfg pcLabel with
  | (.ok, uxKeyHandle) =>
    let (uxStatus, alg) := env.getKeyAttributes uxKeyHandle
    if uxStatus ≠ psaSuccess then (.functionFailed, { x with uxVerifyKey := uxKeyHandle })
    else (.ok, { x with uxVerifyKey := uxKeyHandle, xVerifyAlgorithm := alg })
  | _ => (.keyHandleInvalid, { x with uxVerifyKey := 0 })

/-- `C_VerifyInit`. -/
def cVerifyInit (env : SignEnv) (s : State) (xSession : SessionHandle)
    (pxMechanism : Option MechanismType) (xKey : ObjectHandle) : CkRv × State :=
  match sessionCheck s xSession with
  | .error e => (e, s)
  | .ok h =>
    match pxMechanism with
    | none => (.argumentsBad, s)
    | some mechanism =>
      let (xPalHandle, pcLabel) := prvFindObjectInListByHandle s.xObjectList xKey
      if xPalHandle = ckInvalidHandle then
        (.keyHandleInvalid, s.setSession h { s.sessions h with uxSignKey := 0 })
      else if env.lock then
        match loadVerifyKey env s.p11KeyConfig (pcLabel.getD []) (s.sessions h) with
        | (.ok, x) =>
          match checkMechanism ckmRsaX509 mechanism x.xSignAlgorithm with
          | .ok => (.ok, s.setSession h { x with xVerifyMechanism := mechanism })
          | e => (e, s.setSession h x)
        | (e, x) => (e, s.setSession h x)
      else (.cantLock, s)

/-- The length checks of `C_Verify`: of the two, that of the signature decides. -/
def checkLengths (mechanism : MechanismType) (ulDataLen ulSignatureLen : Nat) : CkRv :=
  if mechanism = ckmRsaX509 then
    if ulSignatureLen ≠ pkcs11Rsa2048SignatureLength then .signatureLenRange
    else if ulDataLen ≠ pkcs11Rsa2048SignatureLength then .dataLenRange
    else .ok
  else if mechanism = ckmEcdsa then
    if ulSignatureLen ≠ pkcs11EcdsaP256SignatureLength then .signatureLenRange
    else if ulDataLen ≠ pkcs11Sha256DigestLength then .dataLenRange
    else .ok
  else .operationNotInitialized

/-- `C_Verify` past its session check. It changes nothing. -/
def verifyData (env : SignEnv) (x : P11Session) (pucData pucSignature : Option (List UInt8)) : CkRv :=
  match pucData, pucSignature with
  | some data, some sig =>
    match checkLengths x.xVerifyMechanism data.length sig.length with
    | .ok =>
      if env.lock then
        if x.uxVerifyKey = 0 then .keyHandleInvalid
        else
          let uxStatus := env.verifyHash x.uxVerifyKey x.xVerifyAlgorithm data sig
          if uxStatus = psaSuccess then .ok
          else if uxStatus = psaErrorInvalidSignature ∨ uxStatus = psaErrorBufferTooSmall then
            .signatureInvalid
          else .functionFailed
      else .cantLock
    | e => e
  | _, _ => .argumentsBad

/-- `C_Verify`. -/
def cVerify (env : SignEnv) (s : State) (xSession : SessionHandle)
    (pucData pucSignature : Option (List UInt8)) : CkRv :=
  match sessionCheck s xSession with
  | .error e => e
  | .ok h => verifyData env (s.sessions h) pucData pucSignature

/-! ## Calls -/

/-- A call of the module. `other` stands for a function that is none of the four: it can change the
list and the key configuration. -/
inductive Call
  | signInit (env : SignEnv) (xSession : SessionHandle) (pxMechanism : Option MechanismType)
      (xKey : ObjectHandle)
  | sign (env : SignEnv) (xSession : SessionHandle) (pucData : Option (List UInt8))
      (pucSignature : Bool) (pulSignatureLen : Option Nat)
  | verifyInit (env : SignEnv) (xSession : SessionHandle) (pxMechanism : Option MechanismType)
      (xKey : ObjectHandle)
  | verify (env : SignEnv) (xSession : SessionHandle) (pucData pucSignature : Option (List UInt8))
  | other (xObjectList : P11ObjectList) (p11KeyConfig : P11KeyConfig)

/-- What a call answers: its result, and the signature of `C_Sign`. -/
abbrev Answer := CkRv × Option (List UInt8)

/-- One call. -/
def step (s : State) : Call → Option (State × Answer)
  | .signInit env xSession pxMechanism xKey =>
    let (rv, s') := cSignInit env s xSession pxMechanism xKey
    some (s', rv, none)
  | .sign env xSession pucData pucSignature pulSignatureLen =>
    (cSign env s xSession pucData pucSignature pulSignatureLen).map fun (r, s') => (s', r)
  | .verifyInit env xSession pxMechanism xKey =>
    let (rv, s') := cVerifyInit env s xSession pxMechanism xKey
    some (s', rv, none)
  | .verify env xSession pucData pucSignature =>
    some (s, cVerify env s xSession pucData pucSignature, none)
  | .other xObjectList p11KeyConfig =>
    some ({ s with xObjectList := xObjectList, p11KeyConfig := p11KeyConfig }, .ok, none)

/-- The module. -/
def signVerifyMachine : Machine State Call Answer := ⟨step⟩

/-- The calls that sign. -/
def Call.signs : Call → Bool
  | .signInit .. => true
  | .sign .. => true
  | _ => false

end Pkcs11
