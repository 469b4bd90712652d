import TrustZone.Crypto.PkiObjectPkcs11
import TrustZone.Lib.Ledger

/-!
# The PKCS#11 sessions of PKI objects

What the functions of `PkiObjectPkcs11.c`, and those of `mbedtls_pk_pkcs11.c` that make and close a private
key, do with session handles, over the stages in `PkiObjectPkcs11`. A local that is not initialized holds
what lies on the stack.
-/

namespace Crypto.Sessions

open Lib Pkcs11

/-- A variable of type `CK_SESSION_HANDLE`, and whether the code has given it its value. -/
structure SessionVar where
  value : SessionHandle
  assigned : Bool

/-- What is done with a session: `C_OpenSession` hands it out, its handle is passed on, to a call of the
module or to a function that makes one, or `C_CloseSession` gets it. -/
inductive SessionEvent
  | opened (h : Nat)
  | used (v : SessionVar)
  | closed (v : SessionVar)

/-- A computation that records what it does with sessions. -/
abbrev Recorded := Traced SessionEvent

def record (e : SessionEvent) : Recorded Unit := ⟨[e], some ()⟩

/-- A stage that gets the handle. -/
def SessionVar.use {α : Type} (v : SessionVar) (stage : SessionHandle → Option α) : Recorded α :=
  ⟨[.used v], stage v.value⟩

/-! ## `core_pkcs11.c` -/

/-- How the calls of `xGetSlotList` answer; `C_GetSlotList` leaves a count. -/
structure SlotCalls where
  getFunctionList : Rv
  countSlots : Rv × Nat
  malloc : Nat → Bool
  getSlotList : Rv × Nat

/-- `sizeof( CK_SLOT_ID )`. -/
def sizeofSlotId : Nat := 4

/-- `xGetSlotList`, with pointers that are not `NULL`: its result and `*pxSlotCount`. -/
def xGetSlotList (c : SlotCalls) : Rv × Nat :=
  if c.getFunctionList ≠ ckrOk then (ckrFunctionFailed, 0)
  else
    let (xResult, pxSlotCount) := c.countSlots
    if xResult ≠ ckrOk then (xResult, pxSlotCount)
    else
      let size := sizeofSlotId * pxSlotCount % 2 ^ 32
      if pxSlotCount = size / sizeofSlotId ∧ c.malloc size then c.getSlotList
      else (ckrHostMemory, pxSlotCount)

/-- How the calls of `xInitializePkcs11Session` answer, those of `xInitializePKCS11` and `prvOpenSession`
among them. A session that is opened has a handle that is not zero. -/
structure OpenCalls where
  getFunctionList : Rv
  initFunctionList : Rv
  cInitialize : Rv
  slots : SlotCalls
  openFunctionList : Rv
  openSession : Rv × Nat
  login : Rv

/-- `xInitializePKCS11`. -/
def xInitializePKCS11 (c : OpenCalls) : Rv :=
  if c.initFunctionList ≠ ckrOk then c.initFunctionList else c.cInitialize

/-- `prvOpenSession`: `*pxSession` is set when a session is opened. -/
def prvOpenSession (c : OpenCalls) (pxSession : SessionVar) : Recorded (Rv × SessionVar) :=
  if c.openFunctionList ≠ ckrOk then pure (c.openFunctionList, pxSession)
  else
    let (xResult, h) := c.openSession
    if xResult ≠ ckrOk then pure (xResult, pxSession)
    else do
      record (.opened h)
      pure (xResult, ⟨some h, true⟩)

/-- `xInitializePkcs11Session`, with a pointer that is not `NULL`: its result and `*pxSession`. With no
slot it logs in with what `*pxSession` holds. -/
def xInitializePkcs11Session (c : OpenCalls) (pxSession : SessionVar) : Recorded (Rv × SessionVar) :=
  if c.getFunctionList ≠ ckrOk then pure (c.getFunctionList, pxSession)
  else
    let xResult := xInitializePKCS11 c
    if xResult ≠ ckrOk ∧ xResult ≠ CkRv.cryptokiAlreadyInitialized.code then pure (xResult, pxSession)
    else
      let (xResult, xSlotCount) := xGetSlotList c.slots
      if xResult ≠ ckrOk then pure (xResult, pxSession)
      else do
        let (xResult, pxSession) ←
          if 1 ≤ xSlotCount then prvOpenSession c pxSession else pure (xResult, pxSession)
        if xResult ≠ ckrOk then pure (xResult, pxSession)
        else do
          record (.used pxSession)
          pure (c.login, pxSession)

/-! ## Writing, reading and generating -/

/-- `if( xSession ) pxFunctionList->C_CloseSession( xSession );` -/
def closeIfSet (xSession : SessionVar) : Recorded Unit :=
  if xSession.value = none then pure () else record (.closed xSession)

/-- The end of a function: a session, the stages in it, and the handle is closed if it is set. `finish` is
what follows. -/
def inSession {α β : Type} (o : OpenCalls) (xSession : SessionVar)
    (stages : Rv → SessionVar → Recorded α) (finish : SessionVar → α → β) : Recorded β := do
  let (xResult, xSession) ← xInitializePkcs11Session o xSession
  let r ← stages xResult xSession
  closeIfSet xSession
  pure (finish xSession r)

/-- `xPkcs11WriteCertificate` and `xPkcs11WritePubKey`, around the function that writes. -/
def writeObject (o : OpenCalls) (c : WriteCalls) (pcLabel : Option (List UInt8)) (context : Bool)
    (write : SessionHandle → List UInt8 → Option Int) : Recorded PkiStatus :=
  match pcLabel with
  | none => pure .argInvalid
  | some pcLabel =>
    let label := labelBuffer pcLabel
    if context = false ∨ label = [] then pure .argInvalid
    else if c.getFunctionList ≠ ckrOk then pure (xPrvCkRvToPkiStatus c.getFunctionList)
    else
      inSession o ⟨none, true⟩
        (fun xResult xSession =>
          if xResult ≠ ckrOk then pure (xPrvCkRvToPkiStatus xResult)
          else do
            let xResult ← xSession.use fun h => xPrvDestoryObject c.destroy h label
            if xResult ≠ ckrOk then pure (xPrvCkRvToPkiStatus xResult)
            else xPrvMbedtlsErrToPkiStatus <$> xSession.use fun h => write h label)
        fun _ xStatus => xStatus

/-- `xPkcs11WriteCertificate`. -/
def xPkcs11WriteCertificate (o : OpenCalls) (c : WriteCalls) (pcLabel raw : Option (List UInt8)) :
    Recorded PkiStatus :=
  writeObject o c pcLabel raw.isSome (lWriteCertificateToPKCS11 c.write (raw.getD []))

/-- `xPkcs11WritePubKey`. -/
def xPkcs11WritePubKey (o : OpenCalls) (c : WriteCalls) (pcLabel : Option (List UInt8))
    (pk : Option EcPublicKey) : Recorded PkiStatus :=
  writeObject o c pcLabel pk.isSome
    (lWriteEcPublicKeyToPKCS11 c.write c.calloc (pk.getD ⟨false, fun _ => (0, 0, [])⟩))

/-- `xPkcs11ReadCertificate`; `xSession` is not initialized, and `stack` is what lies there. -/
def xPkcs11ReadCertificate {χ : Type} (stack : SessionHandle) (o : OpenCalls)
    (c : ReadCertificateCalls χ) (crt : Option χ) (pcLabel : Option (List UInt8)) :
    Recorded (PkiStatus × Option χ) :=
  match pcLabel, crt with
  | some pcLabel, some _ =>
    if labelBuffer pcLabel = [] then pure (.argInvalid, crt)
    else if c.getFunctionList ≠ ckrOk then pure (xPrvCkRvToPkiStatus c.getFunctionList, crt)
    else
      inSession o ⟨stack, false⟩
        (fun xResult xSession =>
          if xResult ≠ ckrOk then pure (xPrvCkRvToPkiStatus xResult, crt)
          else do
            let (lRslt, crt) ← xSession.use fun h => lReadCertificateFromPKCS11 c.read c.crtInit h
            pure (xPrvMbedtlsErrToPkiStatus lRslt, some crt))
        fun _ r => r
  | _, _ => pure (.argInvalid, crt)

/-- `xPkcs11GenerateKeyPairEC`, with pointers that are not `NULL`. -/
def xPkcs11GenerateKeyPairEC (o : OpenCalls) (c : GenerateCalls)
    (pcPrivateKeyLabel pcPublicKeyLabel : List UInt8) (out : DerOut) : Recorded (PkiStatus × DerOut) :=
  let prv := labelBuffer pcPrivateKeyLabel
  let pub := labelBuffer pcPublicKeyLabel
  if prv = [] ∨ pub = [] then Traced.fail
  else if c.getFunctionList ≠ ckrOk then pure (xPrvCkRvToPkiStatus c.getFunctionList, out)
  else
    inSession o ⟨none, true⟩
      (fun xResult xSession =>
        if xResult ≠ ckrOk then pure (xPrvCkRvToPkiStatus xResult, out)
        else do
          let (xResult, out) ← xSession.use fun h => generateKeyPair c prv pub h out
          pure (xPrvCkRvToPkiStatus xResult, out))
      fun _ r => r

/-- `xPkcs11ReadPublicKey`, with output pointers that are not `NULL`. -/
def xPkcs11ReadPublicKey (o : OpenCalls) (c : ReadPublicKeyCalls) (out : DerOut)
    (pcPubKeyLabel : Option (List UInt8)) : Recorded (PkiStatus × DerOut) :=
  match pcPubKeyLabel with
  | none => pure (.argInvalid, out)
  | some label =>
    if label = [] ∨ pkcs11configMaxLabelLength < label.length then pure (.argInvalid, out)
    else if xPrvCkRvToPkiStatus c.getFunctionList ≠ .success then
      pure (xPrvCkRvToPkiStatus c.getFunctionList, out)
    else
      inSession o ⟨none, true⟩
        (fun xResult xSession =>
          if xPrvCkRvToPkiStatus xResult = .success then xSession.use fun _ => readPublicKey c out
          else pure (xPrvCkRvToPkiStatus xResult, out))
        fun xSession (xStatus, out) =>
          (if xSession.value = none then xStatus else xPrvCkRvToPkiStatus c.closeSession, out)

/-! ## The private key of a pk context -/

/-- What `pk_ctx` points to: a `P11EcDsaCtx_t` with its session, or a `P11RsaCtx_t`, which
`p11_rsa_ctx_init` gives none. -/
inductive P11Ctx
  | ecdsa (xSessionHandle : SessionHandle)
  | rsa

/-- An `mbedtls_pk_context`. -/
structure PkContext where
  pkCtx : Option P11Ctx

/-- `mbedtls_pk_init`. -/
def mbedtlsPkInit : PkContext := ⟨none⟩

/-- How the calls of `p11_ecdsa_ctx_init` answer. -/
structure EcdsaInitCalls where
  getSizes : Rv
  getAttributeValue : Rv
  groupLoad : Int
  getTag : Int
  pointReadBinary : Int

def ckrGeneralError : Rv := 0x00000005

/-- `p11_ecdsa_ctx_init`, with a context that is not `NULL`. -/
def p11EcdsaCtxInit (c : EcdsaInitCalls) (xSessionHandle : SessionVar) : Recorded (Rv × P11Ctx) := do
  let fresh := P11Ctx.ecdsa none
  let xResult ← xSessionHandle.use fun _ => some c.getSizes
  if xResult ≠ ckrOk then pure (xResult, fresh)
  else do
    let xResult ← xSessionHandle.use fun _ => some c.getAttributeValue
    if xResult ≠ ckrOk then pure (xResult, fresh)
    else if c.groupLoad ≠ 0 then pure (ckrFunctionFailed, fresh)
    else if c.getTag ≠ 0 ∨ c.pointReadBinary ≠ 0 then pure (ckrGeneralError, fresh)
    else pure (ckrOk, .ecdsa xSessionHandle.value)

def ckkRsa : BitVec 32 := 0x00000000
def ckkEcdsa : BitVec 32 := 0x00000003

/-- How the calls of `xPKCS11_initMbedtlsPkContext` answer; `C_GetAttributeValue` leaves the key type. -/
structure PkCalls where
  getFunctionList : Rv
  getKeyType : Rv × BitVec 32
  ecdsaCalloc : Bool
  ecdsa : EcdsaInitCalls
  rsaCalloc : Bool

/-- The `switch` of `xPKCS11_initMbedtlsPkContext`. -/
def initKeyType (c : PkCalls) (xSessionHandle : SessionVar) (xKeyType : BitVec 32) :
    Recorded (Rv × PkContext) :=
  if xKeyType = ckkEcdsa then
    if c.ecdsaCalloc then do
      let (xResult, ctx) ← p11EcdsaCtxInit c.ecdsa xSessionHandle
      pure (xResult, ⟨if xResult = ckrOk then some ctx else none⟩)
    else pure (ckrFunctionFailed, ⟨none⟩)
  else if xKeyType = ckkRsa then
    if c.rsaCalloc then pure (ckrOk, ⟨some .rsa⟩) else pure (ckrFunctionFailed, ⟨none⟩)
  else pure (ckrFunctionFailed, ⟨none⟩)

/-- `xPKCS11_initMbedtlsPkContext`, with a context that is not `NULL`. -/
def xPKCS11InitMbedtlsPkContext (c : PkCalls) (pk : PkContext) (xSessionHandle : SessionVar)
    (xPkHandle : ObjectHandle) : Recorded (Rv × PkContext) :=
  if xSessionHandle.value = none then pure (CkRv.sessionHandleInvalid.code, pk)
  else if xPkHandle = ckInvalidHandle then pure (CkRv.keyHandleInvalid.code, pk)
  else if c.getFunctionList ≠ ckrOk then pure (ckrFunctionFailed, pk)
  else do
    let (xResult, xKeyType) ← xSessionHandle.use fun _ => some c.getKeyType
    if xResult ≠ ckrOk then pure (xResult, pk) else initKeyType c xSessionHandle xKeyType

/-- How the calls of `xPkcs11InitMbedtlsPkContext` answer in a session. -/
structure InitCalls where
  find : Rv × ObjectHandle
  pk : PkCalls

/-- The stages of `xPkcs11InitMbedtlsPkContext` after `xInitializePkcs11Session`. A search that finds nothing
is a success to it, whose handle the next stage refuses. -/
def initStages (c : InitCalls) (pk : PkContext) (xResult : Rv) (xSession : SessionVar) :
    Recorded (PkiStatus × PkContext) :=
  if xPrvCkRvToPkiStatus xResult ≠ .success then pure (xPrvCkRvToPkiStatus xResult, pk)
  else do
    let (xResult, xPkHandle) ← xSession.use fun _ => some c.find
    if xPrvCkRvToPkiStatus xResult ≠ .success then pure (xPrvCkRvToPkiStatus xResult, pk)
    else do
      let (xResult, pk) ← xPKCS11InitMbedtlsPkContext c.pk pk xSession xPkHandle
      pure (xPrvCkRvToPkiStatus xResult, pk)

/-- `xPkcs11InitMbedtlsPkContext`, with a context that is not `NULL`: its status, the context, and what
`*pxSessionHandle` gets, if it gets anything. -/
def xPkcs11InitMbedtlsPkContext (o : OpenCalls) (c : InitCalls) (pcLabel : Option (List UInt8))
    (pk : PkContext) : Recorded (PkiStatus × PkContext × Option SessionVar) :=
  if labelBuffer (pcLabel.getD []) = [] then pure (.argInvalid, pk, none)
  else do
    let (xResult, xSession) ← xInitializePkcs11Session o ⟨none, true⟩
    let (xStatus, pk) ← initStages c pk xResult xSession
    pure (xStatus, pk, if xStatus = .success then some xSession else none)

/-- How the calls of `lPKCS11PkMbedtlsCloseSessionAndFree` answer; `beyond` is what lies where the session of
a `P11EcDsaCtx_t` would, when `pk_ctx` is `NULL` or points to something else. -/
structure CloseCalls where
  getFunctionList : Rv
  beyond : SessionHandle
  closeSession : Rv

/-- The handle that `lPKCS11PkMbedtlsCloseSessionAndFree` reads: it takes every context for an ECDSA one. -/
def PkContext.session (pk : PkContext) (beyond : SessionHandle) : SessionVar :=
  match pk.pkCtx with
  | some (.ecdsa xSessionHandle) => ⟨xSessionHandle, true⟩
  | _ => ⟨beyond, false⟩

/-- `lPKCS11PkMbedtlsCloseSessionAndFree`, with a context that is not `NULL`. What it writes `beyond` is
left out. -/
def lPKCS11PkMbedtlsCloseSessionAndFree (c : CloseCalls) (pk : PkContext) :
    Recorded (Int × PkContext) :=
  if c.getFunctionList ≠ ckrOk then pure (-1, pk)
  else do
    record (.closed (pk.session c.beyond))
    if c.closeSession = ckrOk then pure (0, ⟨pk.pkCtx.map fun
      | .ecdsa _ => .ecdsa none
      | .rsa => .rsa⟩)
    else pure (-1, pk)

/-- The private key of `vSubCommand_GenerateCsr` and `vSubCommand_GenerateCertificate`: read into a new
context, and closed whatever came of it. -/
def initAndClose (o : OpenCalls) (c : InitCalls) (close : CloseCalls) (pcLabel : Option (List UInt8)) :
    Recorded Int := do
  let (_, pk, _) ← xPkcs11InitMbedtlsPkContext o c pcLabel mbedtlsPkInit
  let (lError, _) ← lPKCS11PkMbedtlsCloseSessionAndFree close pk
  pure lError

/-! ## What is asked of them -/

/-- The sessions that are opened and closed. -/
def SessionEvent.deeds : SessionEvent → List (Deed Nat)
  | .opened h => [.take h]
  | .closed ⟨some h, _⟩ => [.give h]
  | _ => []

/-- The handle that is used or closed has been assigned. -/
def SessionEvent.Assigned : SessionEvent → Prop
  | .opened _ => True
  | .used v => v.assigned = true
  | .closed v => v.assigned = true

/-- Every session that was opened is closed once, and no handle is used or closed that was never
assigned. -/
structure Right {α : Type} (x : Recorded α) : Prop where
  assigned : x.All SessionEvent.Assigned
  settled : x.Settled SessionEvent.deeds

/-- The session in an ECDSA context. -/
def PkContext.recorded (pk : PkContext) : Multiset Nat :=
  match pk.pkCtx with
  | some (.ecdsa (some h)) => {h}
  | _ => 0

/-- What `xPkcs11InitMbedtlsPkContext` may leave open: the session in the context, after a success. -/
def kept (r : PkiStatus × PkContext × Option SessionVar) : Multiset Nat :=
  if r.1 = .success then r.2.1.recorded else 0

/-- A private key is read into a context with its session, or the session is closed; and to close the
context is right whichever it was. -/
structure InitRight (o : OpenCalls) (c : InitCalls) (close : CloseCalls)
    (pcLabel : Option (List UInt8)) : Prop where
  kept : (xPkcs11InitMbedtlsPkContext o c pcLabel mbedtlsPkInit).Holds SessionEvent.deeds 0 kept
  closed : Right (initAndClose o c close pcLabel)

/-- A call of one of the functions, with what it gets from elsewhere. -/
inductive SessionCall (χ : Type)
  | initMbedtlsPkContext (o : OpenCalls) (c : InitCalls) (close : CloseCalls)
      (pcLabel : Option (List UInt8))
  | writeCertificate (o : OpenCalls) (c : WriteCalls) (pcLabel raw : Option (List UInt8))
  | readCertificate (stack : SessionHandle) (o : OpenCalls) (c : ReadCertificateCalls χ)
      (crt : Option χ) (pcLabel : Option (List UInt8))
  | generateKeyPairEC (o : OpenCalls) (c : GenerateCalls)
      (pcPrivateKeyLabel pcPublicKeyLabel : List UInt8) (out : DerOut)
  | readPublicKey (o : OpenCalls) (c : ReadPublicKeyCalls) (out : DerOut)
      (pcPubKeyLabel : Option (List UInt8))
  | writePubKey (o : OpenCalls) (c : WriteCalls) (pcLabel : Option (List UInt8))
      (pk : Option EcPublicKey)

/-- The sessions of a call are right. -/
def SessionCall.SessionsRight {χ : Type} : SessionCall χ → Prop
  | .initMbedtlsPkContext o c close pcLabel => InitRight o c close pcLabel
  | .writeCertificate o c pcLabel raw => Right (xPkcs11WriteCertificate o c pcLabel raw)
  | .readCertificate stack o c crt pcLabel => Right (xPkcs11ReadCertificate stack o c crt pcLabel)
  | .generateKeyPairEC o c prv pub out => Right (xPkcs11GenerateKeyPairEC o c prv pub out)
  | .readPublicKey o c out pcPubKeyLabel => Right (xPkcs11ReadPublicKey o c out pcPubKeyLabel)
  | .writePubKey o c pcLabel pk => Right (xPkcs11WritePubKey o c pcLabel pk)

/-! ## When it is so -/

/-- `xInitializePkcs11Session` gets as far as a list of slots. -/
structure OpenCalls.Listed (o : OpenCalls) : Prop where
  getFunctionList : o.getFunctionList = ckrOk
  cInitialize : xInitializePKCS11 o = ckrOk ∨ xInitializePKCS11 o = CkRv.cryptokiAlreadyInitialized.code
  slots : (xGetSlotList o.slots).1 = ckrOk

/-- It opens a session, whether or not it can log in. -/
structure OpenCalls.Opens (o : OpenCalls) : Prop extends o.Listed where
  slot : 1 ≤ (xGetSlotList o.slots).2
  openFunctionList : o.openFunctionList = ckrOk
  openSession : o.openSession.1 = ckrOk

/-- The list of slots is empty. -/
structure OpenCalls.NoSlot (o : OpenCalls) : Prop extends o.Listed where
  slot : (xGetSlotList o.slots).2 = 0

/-- Every call of `p11_ecdsa_ctx_init` succeeds. -/
structure EcdsaInitCalls.Succeed (c : EcdsaInitCalls) : Prop where
  getSizes : c.getSizes = ckrOk
  getAttributeValue : c.getAttributeValue = ckrOk
  groupLoad : c.groupLoad = 0
  getTag : c.getTag = 0
  pointReadBinary : c.pointReadBinary = 0

/-- Every call of `xPkcs11InitMbedtlsPkContext` in the session succeeds, with an EC key. -/
structure InitCalls.EcKey (c : InitCalls) : Prop where
  find : c.find.1 = ckrOk
  found : c.find.2 ≠ ckInvalidHandle
  getFunctionList : c.pk.getFunctionList = ckrOk
  getKeyType : c.pk.getKeyType = (ckrOk, ckkEcdsa)
  ecdsaCalloc : c.pk.ecdsaCalloc = true
  ecdsa : c.pk.ecdsa.Succeed

/-- When the sessions of a call are right: a private key is an EC key that can be read, and the function
list is there to close its session, or no session is opened, and the list is not there; to read a
certificate a session is opened, or none is asked for, or the stack holds zero and nobody logs in. -/
def SessionCall.Fine {χ : Type} : SessionCall χ → Prop
  | .initMbedtlsPkContext o c close pcLabel =>
    if close.getFunctionList = ckrOk then
      labelBuffer (pcLabel.getD []) ≠ [] ∧ o.Opens ∧ o.login = ckrOk ∧ c.EcKey
    else labelBuffer (pcLabel.getD []) = [] ∨ ¬o.Opens
  | .readCertificate stack o c crt pcLabel =>
    labelBuffer (pcLabel.getD []) = [] ∨ crt.isNone ∨ c.getFunctionList ≠ ckrOk ∨ o.Opens ∨
      stack = none ∧ ¬o.NoSlot
  | _ => True

end Crypto.Sessions
