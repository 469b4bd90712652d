import TrustZone.Lib.Heap
import TrustZone.Pkcs11.SignVerify

/-!
# Digests

`C_DigestInit`, `C_DigestUpdate` and `C_DigestFinal`, with `C_OpenSession` and `C_CloseSession` around
them. Sessions and hash operations are heap blocks. PSA answers every call with any status; of an
operation it keeps the input it took since it was set up (`hashes`), and `psa_hash_finish` stores the
digest of it.

A call on a session that has been freed, `psa_hash_finish` of `NULL` and a second free of a block do
not return.
-/

namespace Pkcs11

open Lib Psa

/-- `sizeof( P11Session_t )`. -/
def sizeofP11Session : Nat := 60

/-- `sizeof( psa_hash_operation_t )`. -/
def sizeofPsaHashOperation : Nat := 4

/-- The fields of `P11Session_t` that digests use. -/
structure P11DigestSession where
  xOpened : Bool
  xOperationInProgress : MechanismType
  pxHashOperationHandle : Option Nat

/-- The module as digests see it, and the input of each hash operation in PSA. -/
structure DigestState where
  xIsInitialized : Bool
  heap : Heap
  sessions : Nat → Option P11DigestSession
  hashes : Nat → List UInt8

/-- Replace a session. -/
def DigestState.setSession (s : DigestState) (p : Nat) (x : Option P11DigestSession) :
    DigestState :=
  { s with sessions := Function.update s.sessions p x }

/-! ## PSA -/

/-- A call of PSA with its status, and the input of `psa_hash_update`. -/
inductive HashCall
  | setup (op : Nat) (uxStatus : Status)
  | update (op : Nat) (input : List UInt8) (uxStatus : Status)
  | finish (op : Nat) (uxStatus : Status)
  | abort (op : Nat) (uxStatus : Status)
  deriving DecidableEq

/-- The input of the operations after a call. -/
def HashCall.hashes (hashes : Nat → List UInt8) : HashCall → Nat → List UInt8
  | .setup op uxStatus => if uxStatus = psaSuccess then Function.update hashes op [] else hashes
  | .update op input uxStatus =>
    if uxStatus = psaSuccess then Function.update hashes op (hashes op ++ input) else hashes
  | .finish _ _ => hashes
  | .abort _ _ => hashes

/-- The operation that a call works on. -/
def HashCall.uses : HashCall → Option Nat
  | .update op _ _ => some op
  | .finish op _ => some op
  | _ => none

/-- The operation that a call ends, whatever its status. -/
def HashCall.ends : HashCall → Option Nat
  | .finish op _ => some op
  | .abort op _ => some op
  | _ => none

/-! ## Calls -/

/-- What `psa_hash_finish` answers, and the length it leaves when it fails. -/
structure FinishAns where
  uxStatus : Status
  length : Nat

/-- What a call answers: its result, the session of `C_OpenSession`, the calls of PSA, and what
`C_DigestFinal` stores. -/
structure DigestAns where
  rv : CkRv
  xSession : SessionHandle := none
  psa : List HashCall := []
  digest : Option (List UInt8) := none
  pulDigestLen : Option Nat := none
  deriving DecidableEq

/-- `PKCS11_SESSION_VALID_AND_MODULE_INITIALIZED`: the error, or the session. -/
def digestCheck (s : DigestState) (xSession : SessionHandle) :
    Option (Except CkRv (Nat × P11DigestSession)) :=
  if s.xIsInitialized then
    match xSession with
    | none => some (.error .sessionHandleInvalid)
    | some p =>
      match s.sessions p with
      | none => none
      | some x => some (if x.xOpened then .ok (p, x) else .error .sessionClosed)
  else some (.error .cryptokiNotInitialized)

/-- `C_OpenSession`, where `serial` is the `CKF_SERIAL_SESSION` bit of the flags, `pxSession` tells
whether the pointer is there, and the last two whether the mutexes can be created. -/
def cOpenSession (al : Allocator) (s : DigestState) (serial pxSession signMutex verifyMutex : Bool) :
    Option (DigestState × DigestAns) :=
  if ¬serial then some (s, { rv := .sessionParallelNotSupported })
  else if ¬pxSession then some (s, { rv := .argumentsBad })
  else if ¬s.xIsInitialized then some (s, { rv := .cryptokiNotInitialized })
  else
    match s.heap.malloc al sizeofP11Session with
    | (none, heap) => some ({ s with heap := heap }, { rv := .hostMemory })
    | (some p, heap) =>
      if signMutex ∧ verifyMutex then
        some ({ s with heap := heap }.setSession p (some ⟨true, pkcs11NoOperation, none⟩),
          { rv := .ok, xSession := some p })
      else
        match heap.free p with
        | none => none
        | some heap => some ({ s with heap := heap }, { rv := .hostMemory })

/-- `vPortFree( pxHashOperationHandle )`, when there is one. -/
def freeHashOperation (heap : Heap) : Option Nat → Option Heap
  | none => some heap
  | some op => heap.free op

/-- `C_CloseSession`. An operation in progress is freed and not aborted. -/
def cCloseSession (s : DigestState) (xSession : SessionHandle) : Option (DigestState × DigestAns) :=
  match digestCheck s xSession with
  | none => none
  | some (.error _) => some (s, { rv := .sessionHandleInvalid })
  | some (.ok (p, x)) =>
    match freeHashOperation s.heap x.pxHashOperationHandle with
    | none => none
    | some heap =>
      match heap.free p with
      | none => none
      | some heap => some ({ s with heap := heap }.setSession p none, { rv := .ok })

/-- `C_DigestInit`. An operation in progress is replaced; a block whose set-up fails is not freed. -/
def cDigestInit (al : Allocator) (s : DigestState) (xSession : SessionHandle)
    (pMechanism : Option MechanismType) (setup : Status) : Option (DigestState × DigestAns) :=
  match digestCheck s xSession with
  | none => none
  | some (.error e) => some (s, { rv := e })
  | some (.ok (p, x)) =>
    match pMechanism with
    | none => some (s, { rv := .argumentsBad })
    | some mechanism =>
      if mechanism ≠ ckmSha256 then some (s, { rv := .mechanismInvalid })
      else
        match s.heap.malloc al sizeofPsaHashOperation with
        | (none, heap) => some ({ s with heap := heap }, { rv := .hostMemory })
        | (some op, heap) =>
          let call := HashCall.setup op setup
          let s := { s with heap := heap, hashes := call.hashes s.hashes }
          if setup ≠ psaSuccess then some (s, { rv := .functionFailed, psa := [call] })
          else
            let x := { x with xOperationInProgress := mechanism, pxHashOperationHandle := some op }
            some (s.setSession p (some x), { rv := .ok, psa := [call] })

/-- `C_DigestUpdate`. A failed update ends the operation. -/
def cDigestUpdate (s : DigestState) (xSession : SessionHandle) (pPart : Option (List UInt8))
    (update abort : Status) : Option (DigestState × DigestAns) :=
  match digestCheck s xSession with
  | none => none
  | some (.error e) => some (s, { rv := e })
  | some (.ok (p, x)) =>
    match pPart with
    | none => some (s, { rv := .argumentsBad })
    | some part =>
      match x.pxHashOperationHandle with
      | none => some (s, { rv := .operationNotInitialized })
      | some op =>
        if x.xOperationInProgress ≠ ckmSha256 then some (s, { rv := .operationNotInitialized })
        else
          let call := HashCall.update op part update
          let s := { s with hashes := call.hashes s.hashes }
          if update ≠ psaSuccess then
            match s.heap.free op with
            | none => none
            | some heap =>
              let x := { x with
                xOperationInProgress := pkcs11NoOperation, pxHashOperationHandle := none }
              some ({ s with heap := heap }.setSession p (some x),
                { rv := .functionFailed, psa := [call, .abort op abort] })
          else some (s, { rv := .ok, psa := [call] })

/-- `C_DigestFinal`, where `pDigest` tells whether there is a buffer. -/
def cDigestFinal (sha256 : List UInt8 → List UInt8) (s : DigestState) (xSession : SessionHandle)
    (pDigest : Bool) (pulDigestLen : Option Nat) (a : FinishAns) :
    Option (DigestState × DigestAns) :=
  match digestCheck s xSession with
  | none => none
  | some (.error e) => some (s, { rv := e })
  | some (.ok (p, x)) =>
    match pulDigestLen with
    | none => some (s, { rv := .argumentsBad })
    | some len =>
      if x.xOperationInProgress ≠ ckmSha256 then
        some (s.setSession p (some { x with xOperationInProgress := pkcs11NoOperation }),
          { rv := .operationNotInitialized })
      else if ¬pDigest then
        some (s, { rv := .ok, pulDigestLen := some pkcs11Sha256DigestLength })
      else if len < pkcs11Sha256DigestLength then some (s, { rv := .bufferTooSmall })
      else
        match x.pxHashOperationHandle with
        | none => none
        | some op =>
          match s.heap.free op with
          | none => none
          | some heap =>
            let x := { x with
              xOperationInProgress := pkcs11NoOperation, pxHashOperationHandle := none }
            let s' := { s with heap := heap }.setSession p (some x)
            if a.uxStatus ≠ psaSuccess then
              some (s', { rv := .functionFailed, psa := [.finish op a.uxStatus],
                          pulDigestLen := some a.length })
            else
              let digest := sha256 (s.hashes op)
              some (s', { rv := .ok, psa := [.finish op a.uxStatus], digest := some digest,
                          pulDigestLen := some digest.length })

/-- A call, with what PSA and the kernel answer in it. -/
inductive DigestCall
  | cOpenSession (serial pxSession signMutex verifyMutex : Bool)
  | cCloseSession (xSession : SessionHandle)
  | cDigestInit (xSession : SessionHandle) (pMechanism : Option MechanismType) (setup : Status)
  | cDigestUpdate (xSession : SessionHandle) (pPart : Option (List UInt8)) (update abort : Status)
  | cDigestFinal (xSession : SessionHandle) (pDigest : Bool) (pulDigestLen : Option Nat)
      (a : FinishAns)

/-- One call. -/
def digestStep (al : Allocator) (sha256 : List UInt8 → List UInt8) (s : DigestState) :
    DigestCall → Option (DigestState × DigestAns)
  | .cOpenSession serial pxSession signMutex verifyMutex =>
    cOpenSession al s serial pxSession signMutex verifyMutex
  | .cCloseSession xSession => cCloseSession s xSession
  | .cDigestInit xSession pMechanism setup => cDigestInit al s xSession pMechanism setup
  | .cDigestUpdate xSession pPart update abort => cDigestUpdate s xSession pPart update abort
  | .cDigestFinal xSession pDigest pulDigestLen a =>
    cDigestFinal sha256 s xSession pDigest pulDigestLen a

/-- The module. -/
def digestMachine (al : Allocator) (sha256 : List UInt8 → List UInt8) :
    Machine DigestState DigestCall DigestAns := ⟨digestStep al sha256⟩

end Pkcs11
