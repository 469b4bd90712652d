import TrustZone.Crypto.PkiServices
import TrustZone.Pkcs11.CorePkcs11
import TrustZone.Pkcs11.Lifecycle
import TrustZone.Pkcs11.PemToDer

/-!
# Provisioning a device and finding its objects

The two sides of the stores of PSA. The CLI writes keys and certificates by `xPkiGenerateECKeypair`,
`xPkiWriteCertificate` and `xPkiWritePubKey` (`provisioner`). After a reboot the application searches for
them through the PKCS#11 module (`application`), which does not write to the stores; `FindPKCS11Keys`
is `findPkcs11Keys`.
-/

namespace Crypto

open Lib Psa Pkcs11 Machine

/-! ## Provisioning -/

/-- A key of the generator as PSA keeps it. -/
def StoredKey.pkiKey : StoredKey PkiKey → PkiKey
  | .keyPair k => k
  | .publicKey p => ⟨⟨eccPublicKeySecpR1, 256⟩, p, p⟩

/-- The keys as the generator sees them. It reads none that was there before. -/
def PkiStores.keyStore (st : PkiStores) : KeyStore PkiKey := fun id => (st.keys id).map .keyPair

/-- The union of a `PkiObject_t`, read as `xPsaCryptoId`. A buffer does not come from a label. -/
def PkiObject.cryptoId : PkiObject → Nat
  | .psaCrypto id => id
  | .psaIts uid => uid % 2 ^ 32
  | .psaPs uid => uid % 2 ^ 32
  | _ => 0

/-- `xPkiGenerateECKeypair`, with pointers that are not `NULL`. -/
def xPkiGenerateECKeypair (link : PkiLink) (st : PkiStores) (pcPrvKeyLabel pcPubKeyLabel : List UInt8)
    (out : DerOut) (a : GenerateAns PkiKey) : Option (PkiStores × PkiStatus) :=
  match xPkiObjectFromLabel pcPubKeyLabel with
  | .psaCrypto id =>
    (lGenerateKeyPairECPsaCrypto link.pki PkiKey.publicKey st.keyStore
      (xPkiObjectFromLabel pcPrvKeyLabel).cryptoId id out a).map fun r =>
        ({ st with keys := fun id => (r.1 id).map StoredKey.pkiKey },
          xPrvMbedtlsErrToPkiStatus r.2.ret)
  | _ => some (st, .argInvalid)

/-- A call of the CLI, with what PSA, mbedTLS and the allocators answer in it. -/
inductive ProvisionCall
  | xPkiGenerateECKeypair (pcPrvKeyLabel pcPubKeyLabel : List UInt8) (out : DerOut)
      (a : GenerateAns PkiKey)
  | xPkiWriteCertificate (pcCertLabel raw : List UInt8) (fault : Option PsaError)
  | xPkiWritePubKey (link : PkiLink) (pcPubKeyLabel pubKeyDer : List UInt8) (pk : PkContext)
      (fault : Option PsaError)

/-- One call. -/
def provisionStep (link : PkiLink) (st : PkiStores) : ProvisionCall → Option (PkiStores × PkiStatus)
  | .xPkiGenerateECKeypair prv pub out a => xPkiGenerateECKeypair link st prv pub out a
  | .xPkiWriteCertificate label raw fault => xPkiWriteCertificate st label raw fault
  | .xPkiWritePubKey link label der pk fault => xPkiWritePubKey link st label der pk fault

/-- The CLI on the stores. -/
def provisioner (link : PkiLink) : Machine PkiStores ProvisionCall PkiStatus := ⟨provisionStep link⟩

/-! ## Searching -/

/-- What a search gets from elsewhere: memory for its label, and the mutex of the list. -/
structure SearchAns where
  malloc : Bool
  lock : Bool

/-- The services of a search, as the stores make them. The handle of a key is its id. -/
def PkiStores.findEnv (st : PkiStores) (a : SearchAns) : FindEnv where
  openKey id := if (st.keys id.toNat).isSome then (psaSuccess, id) else (psaErrorDoesNotExist, 0)
  psGetInfo uid := if (st.ps uid).isSome then psaSuccess else psaErrorDoesNotExist
  malloc := a.malloc
  lock := a.lock

/-- What `xInitializePkcs11Session` gets from elsewhere: what lies below the object list, the mutex of
`C_Initialize`, memory for the slot list, the block of the session, and its mutexes. -/
structure SessionAns where
  before : Int → P11Object
  mutex : Bool
  slots : Bool
  session : Option Nat
  sessionMutexes : Bool

/-- A session that `C_OpenSession` has zeroed and opened. -/
def openedSession : P11Session := ⟨true, none, 0, 0, 0, 0, 0, 0⟩

/-- `C_Initialize` on the state of the module. -/
def initializeModule (s : State) (before : Int → P11Object) (mutex : Bool) : CkRv × State :=
  if s.xIsInitialized then (.cryptokiAlreadyInitialized, s)
  else (if mutex then .ok else .functionFailed,
    { s with xObjectList := ⟨fun _ => .zero, before⟩, xIsInitialized := mutex })

/-- `xInitializePkcs11Session`: a module that is initialized is no error. -/
def xInitializePkcs11Session (s : State) (a : SessionAns) : CkRv × SessionHandle × State :=
  let (xResult, s) := initializeModule s a.before a.mutex
  if xResult = .ok ∨ xResult = .cryptokiAlreadyInitialized then
    if a.slots then
      match a.session with
      | none => (.hostMemory, none, s)
      | some h =>
        if a.sessionMutexes then (.ok, some h, s.setSession h openedSession)
        else (.hostMemory, none, s)
    else (.hostMemory, none, s)
  else (xResult, none, s)

/-- `C_CloseSession`: the session is freed. -/
def closeSession (s : State) (xSession : SessionHandle) : State :=
  match sessionCheck s xSession with
  | .error _ => s
  | .ok h => s.setSession h { s.sessions h with xOpened := false }

/-- The calls of a search for a label and a class, whose attribute comes second. -/
def moduleFind (env : FindEnv) (xSession : SessionHandle) (label xClass : List UInt8) :
    FindCalls State where
  getFunctionList := ckrOk
  findObjectsInit s :=
    (cFindObjectsInit env s xSession (some [⟨true, label⟩, ⟨false, xClass⟩])).map
      fun r => (r.1.code, r.2)
  findObjects s pxHandle :=
    (cFindObjects env s xSession pxHandle 1 0).map
      fun r => (r.rv.code, r.pxObject, r.pulObjectCount, r.post)
  findObjectsFinal s :=
    let (rv, s) := cFindObjectsFinal s xSession
    some (rv.code, s)

/-! ## `FindPKCS11Keys` -/

/-- What `FindPKCS11Keys` gets from elsewhere; `xHandle` is not initialized. -/
structure FindKeysAns where
  session : SessionAns
  xHandle : ObjectHandle
  devicePrivateKey : SearchAns
  devicePublicKey : SearchAns
  deviceCertificate : SearchAns
  codeVerificationKey : SearchAns

/-- What the searches have so far: `xResult`, `xHandle` and the module. -/
structure FindKeys where
  xResult : Rv
  xHandle : ObjectHandle
  post : State

/-- One search of `FindPKCS11Keys`, unless one has failed before, and whether the object is there. -/
def findKey (st : PkiStores) (xSession : SessionHandle) (label : List UInt8) (xClass : Nat)
    (a : SearchAns) (r : FindKeys) : Option (Bool × FindKeys) :=
  if r.xResult = ckrOk then
    (xFindObjectWithLabelAndClass (moduleFind (st.findEnv a) xSession label (leBytes 4 xClass)) r.post
      r.xHandle).map fun (xResult, xHandle, s) =>
        (decide (xResult = ckrOk ∧ xHandle ≠ 0), ⟨xResult, xHandle, s⟩)
  else some (false, r)

/-- `FindPKCS11Keys`, where `ota` is `CONFIG_OTA_MQTT_UPDATE_DEMO_ENABLED`. -/
def findPkcs11Keys (st : PkiStores) (ota : Bool) (s : State) (a : FindKeysAns) :
    Option (Nat × State) := do
  let (rv, xSession, s) := xInitializePkcs11Session s a.session
  let r : FindKeys := ⟨rv.code, a.xHandle, s⟩
  let (devKeyPriv, r) ←
    findKey st xSession labelDevicePrivateKeyForTls ckoPrivateKey a.devicePrivateKey r
  let (devKeyPub, r) ←
    findKey st xSession labelDevicePublicKeyForTls ckoPublicKey a.devicePublicKey r
  let (devCert, r) ←
    findKey st xSession labelDeviceCertificateForTls ckoCertificate a.deviceCertificate r
  let (otaKeyPub, r) ←
    if ota then findKey st xSession labelCodeVerificationKey ckoPublicKey a.codeVerificationKey r
    else some (true, r)
  let s := closeSession r.post xSession
  if ¬devKeyPriv ∨ ¬devKeyPub ∨ ¬devCert then some (0, s)
  else if ¬otaKeyPub then some (0, s)
  else some (1, s)

/-! ## The application -/

/-- A call of the application, with what it gets from elsewhere. -/
inductive AppCall
  | xInitializePkcs11Session (a : SessionAns)
  | search (xSession : SessionHandle) (label : List UInt8) (a : SearchAns)
  | findPkcs11Keys (ota : Bool) (a : FindKeysAns)

/-- What a call answers: the session, the search, or the result of `FindPKCS11Keys`. -/
inductive AppAns
  | session (rv : CkRv) (xSession : SessionHandle)
  | searched (r : Search)
  | keys (ret : Nat)

/-- One call. A search starts with the count and the handle at zero. -/
def appStep (st : PkiStores) (s : State) : AppCall → Option (State × AppAns)
  | .xInitializePkcs11Session a =>
    let (rv, xSession, s) := xInitializePkcs11Session s a
    some (s, .session rv xSession)
  | .search xSession label a =>
    (searchRun (st.findEnv a) s xSession label ckInvalidHandle 0).map fun r => (r.post, .searched r)
  | .findPkcs11Keys ota a => (findPkcs11Keys st ota s a).map fun r => (r.2, .keys r.1)

/-- The application over the stores. -/
def application (st : PkiStores) : Machine State AppCall AppAns := ⟨appStep st⟩

/-- The module after a reboot: the object list and `P11KeyConfig` are zeroed, and no session is open. -/
structure Rebooted (s : State) : Prop where
  initialized : s.xIsInitialized = false
  list : ∀ i, s.xObjectList.xObjects i = .zero
  keyConfig : s.p11KeyConfig = .zero
  sessions : ∀ h, (s.sessions h).xOpened = false ∧ (s.sessions h).pxFindObjectLabel = none

/-- PSA holds an object under the id that the CLI uses for a label. -/
def PkiStores.Holds (st : PkiStores) (label : List UInt8) : Prop :=
  match xPkiObjectFromLabel label with
  | .psaCrypto id => st.keys id ≠ none
  | .psaIts uid => st.its uid ≠ none
  | .psaPs uid => st.ps uid ≠ none
  | _ => False

/-- The labels of `PkiObject.c`. -/
def pkiLabels : List (List UInt8) :=
  [tlsKeyPrvLabel, tlsKeyPubLabel, tlsCertLabel, tlsRootCaCertLabel, otaSigningKeyLabel]

/-- What a call of `C_GetAttributeValue` gets from elsewhere, with `convert_pem_to_der` as it is. -/
def valueAns (a : ValueAns) (base64Decode : List UInt8 → Option (Nat × List UInt8))
    (beyond : List UInt8) : ValueAns :=
  { a with convertPemToDer := convertPemToDer base64Decode beyond }

end Crypto
