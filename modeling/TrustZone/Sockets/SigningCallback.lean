import TrustZone.Pkcs11.CorePkcs11
import TrustZone.Pkcs11.SignVerify

/-!
# The signing callback (`iot_tls.c`)

`prvPrivateKeySigningCallback`, which the TLS library calls to sign with the private key of the device.
The answers of the services in `C_SignInit` and in `C_Sign` are parameters, and so are the function that
makes a DER signature of `r‖s` and what the local buffer holds before. The buffer at `pucHash` has the
`xHashLen` bytes of the hash, and no more.
-/

namespace Sockets

open Lib Pkcs11 Psa

def TLS_ERROR_SIGN : Int := -2003

/-- What the callback reads of a `TLSContext_t`. -/
structure SigningContext where
  xKeyType : Nat
  xP11Session : SessionHandle
  xP11PrivateKey : ObjectHandle

/-- What the services answer in the two calls. -/
structure SigningEnv where
  signInit : SignEnv
  sign : SignEnv

/-- The size of `xToBeSigned`. -/
abbrev toBeSignedSize : Nat := 256

/-- The hash, as it is to be signed: the result, the mechanism and the data. A key type that is not
known leaves the mechanism zero. -/
def formatHash (xKeyType : Nat) (xToBeSigned pucHash : List UInt8) :
    Except MemFault (CkRv × MechanismType × List UInt8) :=
  let xResult := if toBeSignedSize < pucHash.length then CkRv.argumentsBad else .ok
  if xKeyType = ckkRsa then do
    let xToBeSigned ← vAppendSha256AlgorithmIdentifierSequence pucHash xToBeSigned
    return (.ok, ckmRsaPkcs, xToBeSigned.take pkcs11RsaSignatureInputLength)
  else if xKeyType = ckkEc then do
    let xToBeSigned ← memcpy xToBeSigned 0 pucHash pucHash.length
    return (xResult, ckmEcdsa, xToBeSigned.take pucHash.length)
  else return (.argumentsBad, 0, xToBeSigned)

/-- `C_SignInit`, then `C_Sign` into a buffer that is said to have 256 bytes: the result, and the
signature. -/
def signFormatted (env : SigningEnv) (ctx : SigningContext) (s : State) (mechanism : MechanismType)
    (xToBeSigned : List UInt8) : Option ((CkRv × Option (List UInt8)) × State) :=
  match cSignInit env.signInit s ctx.xP11Session (some mechanism) ctx.xP11PrivateKey with
  | (.ok, s) =>
    cSign env.sign s ctx.xP11Session (some xToBeSigned) true (some toBeSignedSize)
  | (e, s) => some ((e, none), s)

/-- The signature that goes back to the TLS library. -/
def finishSignature (xKeyType : Nat) (toMbedTls : List UInt8 → List UInt8)
    (r : CkRv × Option (List UInt8)) : CkRv × Option (List UInt8) :=
  match r with
  | (.ok, some pucSig) =>
    if xKeyType = ckkEc then
      if pucSig.length ≠ pkcs11EcdsaP256SignatureLength then (.functionFailed, some pucSig)
      else (.ok, some (toMbedTls pucSig))
    else (.ok, some pucSig)
  | r => r

/-- `prvPrivateKeySigningCallback`: the result, what is in `pucSig`, and the module. -/
def prvPrivateKeySigningCallback {μ : Type} (toMbedTls : List UInt8 → List UInt8) (env : SigningEnv)
    (stack : Fin toBeSignedSize → UInt8) (ctx : SigningContext) (s : State) (_xMdAlg : μ)
    (pucHash : List UInt8) : Except MemFault ((Int × Option (List UInt8)) × State) :=
  match formatHash ctx.xKeyType (List.ofFn stack) pucHash with
  | .error e => .error e
  | .ok (.ok, mechanism, xToBeSigned) =>
    match signFormatted env ctx s mechanism xToBeSigned with
    | none => .error .null
    | some (r, s) =>
      let (xResult, pucSig) := finishSignature ctx.xKeyType toMbedTls r
      .ok ((if xResult ≠ .ok then TLS_ERROR_SIGN else 0, pucSig), s)
  | .ok (_, _, _) => .ok ((TLS_ERROR_SIGN, none), s)

end Sockets
