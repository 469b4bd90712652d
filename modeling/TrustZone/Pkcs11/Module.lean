import Mathlib.Data.List.FinRange
import Mathlib.Logic.Function.Basic
import TrustZone.Lib.Bytes
import TrustZone.Psa.Defs

/-!
# The PKCS #11 module on PSA: state, object list and key marks

The module object and the sessions of `iot_pkcs11_psa.c`, its list of objects, and the key marks of
`iot_pkcs11_psa_object_management.c`. An application handle is an index into the list plus one; a
list entry keeps the PAL handle and the label, a NUL-terminated string in an array.

`prvFindObjectInListByHandle` compares the index with the upper bound only, so the memory before the
array is part of the list's model (`before`).
-/

namespace Pkcs11

open Lib Psa

/-- `CK_RV`, the values that the module returns. -/
inductive CkRv
  | ok | hostMemory | functionFailed | argumentsBad | cantLock | attributeTypeInvalid
  | attributeValueInvalid | dataLenRange | keyHandleInvalid | keyTypeInconsistent
  | mechanismInvalid | objectHandleInvalid | operationActive | operationNotInitialized
  | sessionClosed | sessionHandleInvalid | signatureInvalid | signatureLenRange
  | templateIncomplete | bufferTooSmall | cryptokiNotInitialized | cryptokiAlreadyInitialized
  | templateInconsistent | deviceMemory | mechanismParamInvalid | sessionParallelNotSupported
  | attributeSensitive
  deriving DecidableEq

/-- `CK_OBJECT_HANDLE`. -/
abbrev ObjectHandle := BitVec 32

def ckInvalidHandle : ObjectHandle := 0

/-- `psa_key_handle_t` and `psa_key_id_t`. -/
abbrev KeyHandle := BitVec 32

/-- `CK_MECHANISM_TYPE`. -/
abbrev MechanismType := BitVec 32

def ckmRsaPkcs : MechanismType := 0x00000001
def ckmRsaX509 : MechanismType := 0x00000003
def ckmSha256 : MechanismType := 0x00000250
def ckmEcdsa : MechanismType := 0x00001041

/-- `pkcs11NO_OPERATION`. -/
def pkcs11NoOperation : MechanismType := 0xFFFFFFFF

def pkcs11configMaxLabelLength : Nat := 32

abbrev pkcs11configMaxNumObjects : Nat := 6

instance : NeZero pkcs11configMaxNumObjects := ⟨Nat.succ_ne_zero 5⟩

def labelDevicePrivateKeyForTls : List UInt8 := ascii "tls_key_priv"
def labelDevicePublicKeyForTls : List UInt8 := ascii "tls_key_pub"
def labelDeviceCertificateForTls : List UInt8 := ascii "tls_cert"
def labelCodeVerificationKey : List UInt8 := ascii "ota_signer_pub"
def labelJitpCertificate : List UInt8 := ascii "JITP Cert"
def labelRootCertificate : List UInt8 := ascii "root_ca_cert"

/-! ## State -/

/-- `P11Object_t`: the PAL handle and the label array. -/
structure P11Object where
  xHandle : ObjectHandle
  xLabel : List UInt8
  deriving DecidableEq

/-- A zeroed entry. -/
def P11Object.zero : P11Object := ⟨0, List.replicate (pkcs11configMaxLabelLength + 1) 0⟩

/-- The label of an entry. -/
def P11Object.label (o : P11Object) : List UInt8 := cstr o.xLabel

/-- `P11ObjectList_t`: the array, and what an index below zero reads. -/
structure P11ObjectList where
  xObjects : Fin pkcs11configMaxNumObjects → P11Object
  before : Int → P11Object

/-- The entry at an index below the upper bound. -/
def P11ObjectList.at (l : P11ObjectList) (i : Int) : P11Object :=
  if h : 0 ≤ i ∧ i.toNat < pkcs11configMaxNumObjects then l.xObjects ⟨i.toNat, h.2⟩ else l.before i

/-- Write the entry at an index below the upper bound. -/
def P11ObjectList.set (l : P11ObjectList) (i : Int) (o : P11Object) : P11ObjectList :=
  if h : 0 ≤ i ∧ i.toNat < pkcs11configMaxNumObjects then
    { l with xObjects := Function.update l.xObjects ⟨i.toNat, h.2⟩ o }
  else { l with before := Function.update l.before i o }

/-- `P11KeyConfig_t`. -/
structure P11KeyConfig where
  uxDevicePrivateKey : KeyHandle
  uxDevicePublicKey : KeyHandle
  uxCodeVerifyKey : KeyHandle
  xDeviceCertificateMark : Bool
  xDevicePrivateKeyMark : Bool
  xDevicePublicKeyMark : Bool
  xCodeVerifyKeyMark : Bool
  xJitpCertificateMark : Bool
  xRootCertificateMark : Bool
  deriving DecidableEq

/-- `P11Session_t`: the search buffer, and the operations in progress. -/
structure P11Session where
  xOpened : Bool
  pxFindObjectLabel : Option (List UInt8)
  uxVerifyKey : KeyHandle
  xVerifyMechanism : MechanismType
  xVerifyAlgorithm : Algorithm
  uxSignKey : KeyHandle
  xSignMechanism : MechanismType
  xSignAlgorithm : Algorithm
  deriving DecidableEq

/-- A session handle: a pointer to the session, or `NULL`. -/
abbrev SessionHandle := Option Nat

/-- The module: `xP11Context`, `P11KeyConfig` and the sessions. -/
structure State where
  xIsInitialized : Bool
  xObjectList : P11ObjectList
  p11KeyConfig : P11KeyConfig
  sessions : Nat → P11Session

/-- Replace a session. -/
def State.setSession (s : State) (h : Nat) (x : P11Session) : State :=
  { s with sessions := Function.update s.sessions h x }

/-- `PKCS11_SESSION_VALID_AND_MODULE_INITIALIZED`: the error, or the session. -/
def sessionCheck (s : State) (xSession : SessionHandle) : Except CkRv Nat :=
  if s.xIsInitialized then
    match xSession with
    | none => .error .sessionHandleInvalid
    | some h => if (s.sessions h).xOpened then .ok h else .error .sessionClosed
  else .error .cryptokiNotInitialized

theorem sessionCheck_ok {s : State} {xSession : SessionHandle} {h : Nat}
    (hs : sessionCheck s xSession = .ok h) :
    xSession = some h ∧ s.xIsInitialized = true ∧ (s.sessions h).xOpened = true := by
  unfold sessionCheck at hs
  split_ifs at hs with hi
  cases xSession with
  | none => simp at hs
  | some k =>
    simp only at hs
    split_ifs at hs with ho
    obtain rfl := Except.ok.inj hs
    exact ⟨rfl, hi, ho⟩

theorem sessionCheck_error {s : State} {xSession : SessionHandle} {e : CkRv}
    (hs : sessionCheck s xSession = .error e) :
    e = .cryptokiNotInitialized ∨ e = .sessionHandleInvalid ∨ e = .sessionClosed := by
  unfold sessionCheck at hs
  split_ifs at hs with hi
  · cases xSession with
    | none => exact .inr (.inl (Except.error.inj hs).symm)
    | some k =>
      simp only at hs
      split_ifs at hs
      exact .inr (.inr (Except.error.inj hs).symm)
  · exact .inl (Except.error.inj hs).symm

theorem sessionCheck_error_ne {s : State} {xSession : SessionHandle} {e : CkRv}
    (hs : sessionCheck s xSession = .error e) : e ≠ .ok := by
  obtain rfl | rfl | rfl := sessionCheck_error hs <;> simp

/-! ## The object list -/

/-- The loop of `prvAddObjectToList` over the indices `is`: the entry that has the handle, or the free
entry seen last. -/
def addSearch (xObjects : Fin pkcs11configMaxNumObjects → P11Object) (xPalHandle : ObjectHandle) :
    List (Fin pkcs11configMaxNumObjects) → Option (Fin pkcs11configMaxNumObjects) →
      Fin pkcs11configMaxNumObjects ⊕ Option (Fin pkcs11configMaxNumObjects)
  | [], lInsertIndex => .inr lInsertIndex
  | i :: is, lInsertIndex =>
    if (xObjects i).xHandle = xPalHandle then .inl i
    else if (xObjects i).xHandle = ckInvalidHandle then addSearch xObjects xPalHandle is (some i)
    else addSearch xObjects xPalHandle is lInsertIndex

/-- The application handle of an index. -/
def appHandle (i : Fin pkcs11configMaxNumObjects) : ObjectHandle := BitVec.ofNat 32 (i.val + 1)

/-- `prvAddObjectToList`, once the mutex is taken or not: the result, the application handle, and the
list. -/
def prvAddObjectToList (lock : Bool) (l : P11ObjectList) (xPalHandle : ObjectHandle)
    (pcLabel : List UInt8) : CkRv × Option ObjectHandle × P11ObjectList :=
  if lock then
    match addSearch l.xObjects xPalHandle (List.finRange pkcs11configMaxNumObjects).reverse none with
    | .inl i => (.ok, some (appHandle i), l)
    | .inr none => (.bufferTooSmall, none, l)
    | .inr (some i) =>
      if pcLabel.length < pkcs11configMaxLabelLength then
        let o : P11Object := ⟨xPalHandle, blit (l.xObjects i).xLabel 0 pcLabel⟩
        (.ok, some (appHandle i), { l with xObjects := Function.update l.xObjects i o })
      else (.dataLenRange, none, l)
  else (.cantLock, none, l)

/-- `prvDeleteObjectFromList`, once the mutex is taken or not. A handle out of bounds is reported as a
mutex that was not taken. -/
def prvDeleteObjectFromList (lock : Bool) (l : P11ObjectList) (xAppHandle : ObjectHandle) :
    CkRv × P11ObjectList :=
  let lIndex := (xAppHandle - 1).toInt
  if lIndex < pkcs11configMaxNumObjects then
    if lock then
      if (l.at lIndex).xHandle ≠ ckInvalidHandle then (.ok, l.set lIndex .zero)
      else (.objectHandleInvalid, l)
    else (.cantLock, l)
  else (.cantLock, l)

/-- `prvFindObjectInListByHandle`: the PAL handle, and the label with its NUL. -/
def prvFindObjectInListByHandle (l : P11ObjectList) (xAppHandle : ObjectHandle) :
    ObjectHandle × Option (List UInt8) :=
  let lIndex := (xAppHandle - 1).toInt
  if lIndex < pkcs11configMaxNumObjects then
    if (l.at lIndex).xHandle ≠ ckInvalidHandle then
      ((l.at lIndex).xHandle, some ((l.at lIndex).label ++ [0]))
    else (ckInvalidHandle, none)
  else (ckInvalidHandle, none)

/-- `prvFindObjectInListByLabel`: the PAL and the application handle of the first entry whose label
array starts with the bytes of `pcLabel` (a NUL in the array ends the comparison). -/
def prvFindObjectInListByLabel (l : P11ObjectList) (pcLabel : List UInt8) :
    ObjectHandle × ObjectHandle :=
  match (List.finRange pkcs11configMaxNumObjects).find?
      fun i => pcLabel.isPrefixOf (l.xObjects i).xLabel with
  | none => (ckInvalidHandle, ckInvalidHandle)
  | some i => ((l.xObjects i).xHandle, appHandle i)

/-! ## Keys by label -/

/-- `PKCS11PSAContextImportObject`: record the handle and set the mark. -/
def pkcs11PsaContextImportObject (c : P11KeyConfig) (pLabelValue : List UInt8)
    (uxKeyHandle : KeyHandle) : P11KeyConfig :=
  if pLabelValue = labelDevicePrivateKeyForTls then
    { c with uxDevicePrivateKey := uxKeyHandle, xDevicePrivateKeyMark := true }
  else if pLabelValue = labelDevicePublicKeyForTls then
    { c with uxDevicePublicKey := uxKeyHandle, xDevicePublicKeyMark := true }
  else if pLabelValue = labelCodeVerificationKey then
    { c with uxCodeVerifyKey := uxKeyHandle, xCodeVerifyKeyMark := true }
  else if pLabelValue = labelDeviceCertificateForTls then { c with xDeviceCertificateMark := true }
  else if pLabelValue = labelJitpCertificate then { c with xJitpCertificateMark := true }
  else if pLabelValue = labelRootCertificate then { c with xRootCertificateMark := true }
  else c

/-- `PKCS11PSAGetKeyHandle`: `memcmp` over the bytes of `pcLabel`, which may hold the NUL or not. -/
def pkcs11PsaGetKeyHandle (c : P11KeyConfig) (pcLabel : List UInt8) : CkRv × KeyHandle :=
  if pcLabel.isPrefixOf (labelDevicePrivateKeyForTls ++ [0]) ∧ c.xDevicePrivateKeyMark then
    (.ok, c.uxDevicePrivateKey)
  else if pcLabel.isPrefixOf (labelDevicePublicKeyForTls ++ [0]) ∧ c.xDevicePublicKeyMark then
    (.ok, c.uxDevicePublicKey)
  else if pcLabel.isPrefixOf (labelCodeVerificationKey ++ [0]) ∧ c.xCodeVerifyKeyMark then
    (.ok, c.uxCodeVerifyKey)
  else (.argumentsBad, 0)

end Pkcs11
