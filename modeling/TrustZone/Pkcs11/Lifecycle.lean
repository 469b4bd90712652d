import TrustZone.Pkcs11.GenerateKeyPair

/-!
# The life of the objects

`C_Initialize`, `C_Finalize` and `C_DestroyObject`, and the machine of the calls that create, find and
destroy objects. The calls on sessions, which leave objects alone, are one call that sets them.
-/

namespace Pkcs11

open Lib Psa Crypto Machine

variable {κ ρ ε : Type}

/-- `prvMbedTLS_Initialize`, called by `C_Initialize`: `before` is what lies below the object list. -/
def cInitialize (d : Device κ) (before : Int → P11Object) (mutex : Bool) : CkRv × Device κ :=
  if d.p11.xIsInitialized then (.cryptokiAlreadyInitialized, d)
  else
    let s := { d.p11 with xObjectList := ⟨fun _ => .zero, before⟩, xIsInitialized := mutex }
    (if mutex then .ok else .functionFailed, ⟨s, d.psa⟩)

/-- `PKCS11PSARemoveObject` on a device. -/
def removeObject (d : Device κ) (pcLabel : List UInt8) (permanent : Bool) (a : RemoveAns) :
    CkRv × Device κ :=
  let (rv, cfg, psa) := pkcs11PsaRemoveObject d.psa d.p11.p11KeyConfig pcLabel permanent a
  (rv, ⟨{ d.p11 with p11KeyConfig := cfg }, psa⟩)

/-- `C_Finalize`: the device keys are closed, the public one only if the private one was. -/
def cFinalize (d : Device κ) (pvReserved : Bool) (before : Int → P11Object)
    (aPrivate aPublic : RemoveAns) : CkRv × Device κ :=
  if pvReserved then (.argumentsBad, d)
  else if d.p11.xIsInitialized then
    let s := { d.p11 with xObjectList := ⟨fun _ => .zero, before⟩, xIsInitialized := false }
    match removeObject ⟨s, d.psa⟩ (labelDevicePrivateKeyForTls ++ [0]) false aPrivate with
    | (.ok, d) => removeObject d (labelDevicePublicKeyForTls ++ [0]) false aPublic
    | (rv, d) => (rv, d)
  else (.cryptokiNotInitialized, d)

/-- `C_DestroyObject`. A handle that names no object is no error. -/
def cDestroyObject (d : Device κ) (xSession : SessionHandle) (xObject : ObjectHandle)
    (a : RemoveAns) (lock : Bool) : CkRv × Device κ :=
  match sessionCheck d.p11 xSession with
  | .error e => (e, d)
  | .ok _ =>
    match prvFindObjectInListByHandle d.p11.xObjectList xObject with
    | (_, some pcLabel) =>
      match removeObject d pcLabel true a with
      | (.ok, d) =>
        let (rv, l) := prvDeleteObjectFromList lock d.p11.xObjectList xObject
        (rv, ⟨{ d.p11 with xObjectList := l }, d.psa⟩)
      | (rv, d) => (rv, d)
    | (_, none) => (.ok, d)

/-- How PSA and the mutex answer a search. -/
structure FindAns where
  openKey : Option PsaError
  psGetInfo : Option PsaError
  lock : Bool

/-- The services as the stores and the faults make them. -/
def Device.findEnv (d : Device κ) (a : FindAns) : FindEnv :=
  ⟨d.psa.openKey a.openKey, d.psa.psGetInfo a.psGetInfo, true, a.lock⟩

/-- A call. -/
inductive TokenCall (κ : Type)
  | cInitialize (before : Int → P11Object) (mutex : Bool)
  | cFinalize (pvReserved : Bool) (before : Int → P11Object) (aPrivate aPublic : RemoveAns)
  | cCreateObject (xSession : SessionHandle) (pxTemplate : Option (List CkAttribute))
      (pxObject : Option ObjectHandle) (a : CreateAns)
  | cGenerateKeyPair (args : KeyPairArgs) (a : KeyPairAns κ)
  | cFindObjects (xSession : SessionHandle) (pxObject : ObjectHandle)
      (ulMaxObjectCount pulObjectCount : Nat) (a : FindAns)
  | cDestroyObject (xSession : SessionHandle) (xObject : ObjectHandle) (a : RemoveAns) (lock : Bool)
  | sessions (sessions : Nat → P11Session)

/-- One call on the device. -/
def tokenStep (mbed : Mbed ρ ε κ) (publicKey : κ → List UInt8) (d : Device κ) :
    TokenCall κ → Option (Device κ × CkRv)
  | .cInitialize before mutex => let (rv, d) := cInitialize d before mutex; some (d, rv)
  | .cFinalize pvReserved before aPrivate aPublic =>
    let (rv, d) := cFinalize d pvReserved before aPrivate aPublic
    some (d, rv)
  | .cCreateObject xSession pxTemplate pxObject a =>
    (cCreateObject mbed d xSession pxTemplate pxObject a).map fun r => (r.post, r.rv)
  | .cGenerateKeyPair args a => (cGenerateKeyPair publicKey d args a).map fun r => (r.post, r.rv)
  | .cFindObjects xSession pxObject ulMaxObjectCount pulObjectCount a =>
    (cFindObjects (d.findEnv a) d.p11 xSession pxObject ulMaxObjectCount pulObjectCount).map
      fun r => (⟨r.post, d.psa⟩, r.rv)
  | .cDestroyObject xSession xObject a lock =>
    let (rv, d) := cDestroyObject d xSession xObject a lock
    some (d, rv)
  | .sessions sessions => some (⟨{ d.p11 with sessions := sessions }, d.psa⟩, .ok)

/-- The module on its stores. -/
def tokenMachine (mbed : Mbed ρ ε κ) (publicKey : κ → List UInt8) :
    Machine (Device κ) (TokenCall κ) CkRv := ⟨tokenStep mbed publicKey⟩

/-- A device whose module has not been used: `P11KeyConfig` is zeroed, and it has created no key. -/
structure Device.Fresh (d : Device κ) : Prop where
  keyConfig : d.p11.p11KeyConfig = .zero
  created : ∀ id, d.psa.created id = false

end Pkcs11
