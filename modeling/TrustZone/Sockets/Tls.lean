import Mathlib.Data.List.Basic

/-!
# The TLS context (`iot_tls.c`)

The calls into the TLS library answer freely: every one of them has a return code and any number
of records that it sends through `Send_Cb` meanwhile. What goes over to the library and to the
socket is recorded as `Event`s, in order. A loop that has used up its answers is still running
(`none`).
-/

namespace Sockets

/-- What a call does to the TLS library and to the socket below. -/
inductive Event
  /-- `iotSocketSend` with the caller's own bytes. -/
  | socketSend (data : List UInt8)
  /-- `iotSocketRecv` into the caller's buffer. -/
  | socketRecv
  /-- `iotSocketSend` called by the TLS library through `Send_Cb`. -/
  | bioSend (record : List UInt8)
  /-- `TLS_Init` set up a new context, or failed. -/
  | tlsInit (xResult : Int)
  | tlsConnect (xResult : Int)
  | sslHandshake (xResult : Int)
  /-- `mbedtls_ssl_write` was given these bytes. -/
  | sslWrite (data : List UInt8)
  | sslRead
  /-- `prvFreeContext`. -/
  | sslFree
  | closeSession (xP11Session : Nat)
  deriving DecidableEq

inductive HandshakeState
  | notStarted
  | started
  | successful
  deriving DecidableEq

/-- `TLSContext_t`, the fields that decide what a call does. -/
structure TLSContext where
  pcDestination : Option (List UInt8)
  pcServerCertificate : Option (List UInt8)
  xTLSHandshakeState : HandshakeState
  xP11Session : Nat

def CKR_OK : Int := 0
def CKR_HOST_MEMORY : Int := 0x02
def CKR_FUNCTION_FAILED : Int := 0x06
def CKR_USER_ALREADY_LOGGED_IN : Int := 0x100
def CKR_CRYPTOKI_ALREADY_INITIALIZED : Int := 0x191
def CK_INVALID_HANDLE : Nat := 0

def MBEDTLS_ERR_SSL_WANT_READ : Int := -0x6900
def MBEDTLS_ERR_SSL_WANT_WRITE : Int := -0x6880
def MBEDTLS_ERR_SSL_INTERNAL_ERROR : Int := -0x6C00
def pdFREERTOS_ERRNO_ENOSPC : Int := 28
def TLS_ERROR_HANDSHAKE_FAILED : Int := -2001

/-- An answer of the TLS library: its return code, the records it sent, the bytes it delivered. -/
structure SslAns where
  rc : Int
  records : List (List UInt8)
  data : List UInt8

/-- A call of the TLS library, with the records it sends. -/
def SslAns.events (a : SslAns) (call : Event) : List Event := call :: a.records.map .bioSend

/-- The next step of a chain that stops at the first error. -/
def next (xResult step : Int) : Int := if xResult = 0 then step else xResult

/-- `closeNotify` are the records of `mbedtls_ssl_close_notify`. A session is open only when the
function list was found, so the checks of the list are left out. -/
def prvFreeContext (ctx : TLSContext) (closeNotify : List (List UInt8)) :
    TLSContext × List Event :=
  let closed :=
    if ctx.xTLSHandshakeState ≠ .notStarted ∧ ctx.xP11Session ≠ CK_INVALID_HANDLE then
      [.closeSession ctx.xP11Session]
    else []
  ({ ctx with xTLSHandshakeState := .notStarted },
    closeNotify.map .bioSend ++ .sslFree :: closed)

/-! ## Setting up -/

/-- The answers that `TLS_Init` gets. -/
structure InitAns where
  pvPortMalloc : Bool
  getFunctionList : Int
  /-- `xInitializePkcs11Session`: its result and the session. -/
  session : Int × Nat
  drbgSeed : Int

def TLS_Init (ppvContext : Option TLSContext) (pcDestination pcServerCertificate :
    Option (List UInt8)) (a : InitAns) : Option TLSContext × Int :=
  if a.pvPortMalloc then
    let ctx : TLSContext := ⟨pcDestination, pcServerCertificate, .notStarted, CK_INVALID_HANDLE⟩
    let xResult := a.getFunctionList
    let (xResult, ctx) :=
      if xResult = CKR_OK then
        (if a.session.1 = CKR_CRYPTOKI_ALREADY_INITIALIZED ∨
            a.session.1 = CKR_USER_ALREADY_LOGGED_IN then CKR_OK else a.session.1,
          { ctx with xP11Session := a.session.2 })
      else (xResult, ctx)
    let xResult :=
      if xResult = CKR_OK then if a.drbgSeed ≠ 0 then CKR_FUNCTION_FAILED else xResult
      else xResult
    (some ctx, xResult)
  else (ppvContext, CKR_HOST_MEMORY)

/-- What the later calls see of it is the handshake state; the key and the certificates go to the
TLS library, and the result is only printed. -/
def prvInitializeClientCredential (ctx : TLSContext) : TLSContext :=
  if ctx.xP11Session = CK_INVALID_HANDLE then ctx
  else { ctx with xTLSHandshakeState := .started }

/-- The answers that `TLS_Connect` gets. -/
structure ConnectAns where
  /-- Parsing the certificate of the context. -/
  crtParse : Int
  /-- Parsing the four default root certificates. -/
  rootParse : Fin 4 → Int
  configDefaults : Int
  sslSetup : Int
  confMaxFragLen : Int
  setHostname : Int
  handshake : List SslAns
  closeNotify : List (List UInt8)

/-- The loop around `mbedtls_ssl_handshake`. -/
def negotiate (ctx : TLSContext) (closeNotify : List (List UInt8)) :
    List SslAns → Option (TLSContext × Int × List Event)
  | [] => none
  | a :: as =>
    if a.rc = 0 then some (ctx, 0, a.events (.sslHandshake a.rc))
    else if a.rc ≠ MBEDTLS_ERR_SSL_WANT_READ ∧ a.rc ≠ MBEDTLS_ERR_SSL_WANT_WRITE then
      -- a context that failed the handshake is not to be used
      let (ctx, freed) := prvFreeContext ctx closeNotify
      some (ctx, a.rc, a.events (.sslHandshake a.rc) ++ freed)
    else
      match negotiate ctx closeNotify as with
      | none => none
      | some (ctx, xResult, evs) => some (ctx, xResult, a.events (.sslHandshake a.rc) ++ evs)

def TLS_Connect (ctx : TLSContext) (a : ConnectAns) :
    Option (TLSContext × Int × List Event) :=
  let xResult :=
    match ctx.pcServerCertificate with
    | some _ => a.crtParse
    | none => next (next (next (a.rootParse 0) (a.rootParse 1)) (a.rootParse 2)) (a.rootParse 3)
  let xResult := next xResult a.configDefaults
  let ctx := if xResult = 0 then prvInitializeClientCredential ctx else ctx
  let xResult := next (next xResult a.sslSetup) a.confMaxFragLen
  let xResult := if ctx.pcDestination.isSome then next xResult a.setHostname else xResult
  let negotiated :=
    if xResult = 0 then negotiate ctx a.closeNotify a.handshake else some (ctx, xResult, [])
  match negotiated with
  | none => none
  | some (ctx, xResult, evs) =>
    if xResult = 0 then some ({ ctx with xTLSHandshakeState := .successful }, 0, evs)
    else if 0 < xResult then some (ctx, TLS_ERROR_HANDSHAKE_FAILED, evs)
    else some (ctx, xResult, evs)

/-! ## Transfer -/

/-- What a transfer comes to: the context, the result, the bytes received and the events. -/
structure Transfer where
  pxCtx : Option TLSContext
  xResult : Int
  data : List UInt8
  events : List Event

/-- A transfer that is refused or has failed: the context is invalidated. -/
def invalidate (pxCtx : Option TLSContext) (closeNotify : List (List UInt8)) (xResult : Int)
    (evs : List Event) : Transfer :=
  match pxCtx with
  | none => ⟨none, xResult, [], evs⟩
  | some ctx =>
    let (ctx, freed) := prvFreeContext ctx closeNotify
    ⟨some ctx, xResult, [], evs ++ freed⟩

/-- The loop around `mbedtls_ssl_read`, which goes on as long as the library wants to read. -/
def readLoop (ctx : TLSContext) (closeNotify : List (List UInt8)) :
    List SslAns → Option Transfer
  | [] => none
  | a :: as =>
    if a.rc = MBEDTLS_ERR_SSL_WANT_READ then
      match readLoop ctx closeNotify as with
      | none => none
      | some t => some { t with events := a.events .sslRead ++ t.events }
    else if 0 ≤ a.rc then
      some ⟨some ctx, a.rc, a.data.take a.rc.toNat, a.events .sslRead⟩
    else some (invalidate (some ctx) closeNotify a.rc (a.events .sslRead))

def TLS_Recv (pxCtx : Option TLSContext) (as : List SslAns) (closeNotify : List (List UInt8)) :
    Option Transfer :=
  match pxCtx with
  | some ctx =>
    if ctx.xTLSHandshakeState = .successful then readLoop ctx closeNotify as
    else some (invalidate (some ctx) closeNotify MBEDTLS_ERR_SSL_INTERNAL_ERROR [])
  | none => some (invalidate none closeNotify MBEDTLS_ERR_SSL_INTERNAL_ERROR [])

/-- The loop around `mbedtls_ssl_write`, with `xWritten` bytes gone and `xResult` the last
answer. -/
def writeLoop (ctx : TLSContext) (pucMsg : List UInt8) (closeNotify : List (List UInt8))
    (xWritten : Nat) (xResult : Int) : List SslAns → Option Transfer
  | [] =>
    if xWritten < pucMsg.length then none
    else some ⟨some ctx, if 0 ≤ xResult then xWritten else xResult, [], []⟩
  | a :: as =>
    if xWritten < pucMsg.length then
      let wrote := a.events (.sslWrite (pucMsg.drop xWritten))
      if 0 < a.rc then
        match writeLoop ctx pucMsg closeNotify (xWritten + a.rc.toNat) a.rc as with
        | none => none
        | some t => some { t with events := wrote ++ t.events }
      else if a.rc = 0 ∨ a.rc = -pdFREERTOS_ERRNO_ENOSPC then
        some ⟨some ctx, xWritten, [], wrote⟩
      else if a.rc ≠ MBEDTLS_ERR_SSL_WANT_WRITE then
        some (invalidate (some ctx) closeNotify a.rc wrote)
      else
        match writeLoop ctx pucMsg closeNotify xWritten a.rc as with
        | none => none
        | some t => some { t with events := wrote ++ t.events }
    else some ⟨some ctx, if 0 ≤ xResult then xWritten else xResult, [], []⟩

def TLS_Send (pxCtx : Option TLSContext) (pucMsg : List UInt8) (as : List SslAns)
    (closeNotify : List (List UInt8)) : Option Transfer :=
  match pxCtx with
  | some ctx =>
    if ctx.xTLSHandshakeState = .successful then writeLoop ctx pucMsg closeNotify 0 0 as
    else some ⟨some ctx, MBEDTLS_ERR_SSL_INTERNAL_ERROR, [], []⟩
  | none => some ⟨none, MBEDTLS_ERR_SSL_INTERNAL_ERROR, [], []⟩

end Sockets
