import TrustZone.Lib.Runs
import TrustZone.Sockets.Tls

/-!
# Secure sockets (`iot_secure_sockets.c`)

The calls on one socket that exists. The socket layer below and the TLS library answer freely.
-/

namespace Sockets

open Lib

/-- The flags of a socket (`SSOCK_FLAGS_*`). -/
structure Flags where
  connected : Bool
  useTls : Bool
  shutdownRd : Bool
  shutdownWr : Bool

/-- `struct xSOCKET`. -/
structure Socket where
  id : Int
  flags : Flags
  TLS_context : Option TLSContext
  destination : Option (List UInt8)
  server_cert : Option (List UInt8)
  server_cert_len : Nat

/-- What `SOCKETS_Socket` returns for a socket that the layer below created. -/
def Socket.new (id : Int) : Socket := ⟨id, ⟨false, false, false, false⟩, none, none, none, 0⟩

def SOCKETS_ERROR_NONE : Int := 0
def SOCKETS_SOCKET_ERROR : Int := -1
def SOCKETS_EWOULDBLOCK : Int := -11
def SOCKETS_ENOMEM : Int := -12
def SOCKETS_EINVAL : Int := -22
def SOCKETS_ENOPROTOOPT : Int := -109
def SOCKETS_ENOTCONN : Int := -126
def SOCKETS_EISCONN : Int := -127
def SOCKETS_ECLOSED : Int := -128
def SOCKETS_TLS_INIT_ERROR : Int := -1001
def SOCKETS_TLS_HANDSHAKE_ERROR : Int := -1002
def SOCKETS_TLS_SERVER_UNVERIFIED : Int := -1003
def SOCKETS_TLS_RECV_ERROR : Int := -1004
def SOCKETS_TLS_SEND_ERROR : Int := -1005
def SOCKETS_PERIPHERAL_RESET : Int := -1006

def SOCKETS_SO_RCVTIMEO : Int := 0
def SOCKETS_SO_SNDTIMEO : Int := 1
def SOCKETS_SO_SERVER_NAME_INDICATION : Int := 6
def SOCKETS_SO_TRUSTED_SERVER_CERTIFICATE : Int := 7
def SOCKETS_SO_REQUIRE_TLS : Int := 8
def SOCKETS_SO_NONBLOCK : Int := 9

def SOCKETS_SHUT_RD : Nat := 0
def SOCKETS_SHUT_WR : Nat := 1
def SOCKETS_SHUT_RDWR : Nat := 2

def IOT_SOCKET_ERROR : Int := -1
def IOT_SOCKET_ESOCK : Int := -2
def IOT_SOCKET_EINVAL : Int := -3
def IOT_SOCKET_ENOTSUP : Int := -4
def IOT_SOCKET_EAGAIN : Int := -6
def IOT_SOCKET_EINPROGRESS : Int := -7
def IOT_SOCKET_EISCONN : Int := -9
def IOT_SOCKET_ENOTCONN : Int := -10
def IOT_SOCKET_ECONNRESET : Int := -12
def IOT_SOCKET_ECONNABORTED : Int := -13
def IOT_SOCKET_EALREADY : Int := -14
def IOT_SOCKET_EADDRINUSE : Int := -15

/-- What a call answers, with the bytes it received and the events below it. -/
structure Reply where
  rc : Int
  data : List UInt8
  events : List Event

/-! ## Binding -/

/-- `SocketsSockaddr_t`, in network byte order. -/
structure SocketsSockaddr where
  ulAddress : BitVec 32
  usPort : BitVec 16

/-- The two bytes change places. -/
def SOCKETS_ntohs (usIn : BitVec 16) : BitVec 16 := usIn <<< 8 ||| usIn >>> 8

/-- The code that `SOCKETS_Bind` makes of `iotSocketBind`. -/
def bindError (rc : Int) : Int :=
  if rc = 0 then SOCKETS_ERROR_NONE
  else if rc = IOT_SOCKET_ESOCK then SOCKETS_SOCKET_ERROR
  else if rc = IOT_SOCKET_EINVAL then SOCKETS_EINVAL
  else if rc = IOT_SOCKET_EADDRINUSE then SOCKETS_EINVAL
  else if rc = IOT_SOCKET_ERROR then SOCKETS_SOCKET_ERROR
  else rc

/-- The code goes to `rc`, and `rc` is not what is returned. -/
def SOCKETS_Bind (pxAddress : Option SocketsSockaddr)
    (iotSocketBind : BitVec 32 → BitVec 16 → Int) : Int :=
  let _rc :=
    match pxAddress with
    | none => SOCKETS_SOCKET_ERROR
    | some a => bindError (iotSocketBind a.ulAddress (SOCKETS_ntohs a.usPort))
  SOCKETS_SOCKET_ERROR

/-! ## Connecting -/

/-- The code that `SOCKETS_Connect` makes of a failed `iotSocketConnect`. -/
def connectError (rc : Int) : Int :=
  if rc = IOT_SOCKET_ESOCK then SOCKETS_SOCKET_ERROR
  else if rc = IOT_SOCKET_EINVAL then SOCKETS_EINVAL
  else if rc = IOT_SOCKET_EALREADY then SOCKETS_EINVAL
  else if rc = IOT_SOCKET_EINPROGRESS then SOCKETS_SOCKET_ERROR
  else if rc = IOT_SOCKET_EISCONN then SOCKETS_EISCONN
  else if rc = IOT_SOCKET_ERROR then SOCKETS_SOCKET_ERROR
  else rc

/-- The answers that `SOCKETS_Connect` gets. -/
structure ConnectCallAns where
  iotSocketConnect : Int
  init : InitAns
  connect : ConnectAns

/-- The part of `SOCKETS_Connect` after the connection is made. -/
def connectTls (s : Socket) (a : ConnectCallAns) : Option (Socket × Reply) :=
  match TLS_Init s.TLS_context s.destination s.server_cert a.init with
  | (ctx, xResult) =>
    let s := { s with TLS_context := ctx }
    if xResult = 0 then
      match ctx with
      | none => none
      | some ctx =>
        match TLS_Connect ctx a.connect with
        | none => none
        | some (ctx, xResult', evs) =>
          some ({ s with TLS_context := some ctx },
            ⟨if xResult' ≠ 0 then SOCKETS_TLS_HANDSHAKE_ERROR else SOCKETS_ERROR_NONE, [],
              .tlsInit xResult :: evs ++ [.tlsConnect xResult']⟩)
    else some (s, ⟨SOCKETS_TLS_INIT_ERROR, [], [.tlsInit xResult]⟩)

def SOCKETS_Connect (s : Socket) (a : ConnectCallAns) : Option (Socket × Reply) :=
  let (s, rc) :=
    if s.flags.connected = false then
      if a.iotSocketConnect = 0 then
        ({ s with flags := { s.flags with connected := true } }, SOCKETS_ERROR_NONE)
      else (s, connectError a.iotSocketConnect)
    else (s, SOCKETS_SOCKET_ERROR)
  if rc = SOCKETS_ERROR_NONE ∧ s.flags.useTls = true then connectTls s a
  else some (s, ⟨rc, [], []⟩)

/-! ## Transfer -/

/-- The code that `SOCKETS_Recv` and `SOCKETS_Send` make of a failed transfer. -/
def transferError (rc : Int) : Int :=
  if rc = IOT_SOCKET_ESOCK then SOCKETS_SOCKET_ERROR
  else if rc = IOT_SOCKET_EINVAL then SOCKETS_EINVAL
  else if rc = IOT_SOCKET_ENOTCONN then SOCKETS_ENOTCONN
  else if rc = IOT_SOCKET_ECONNRESET then SOCKETS_ECLOSED
  else if rc = IOT_SOCKET_ECONNABORTED then SOCKETS_ECLOSED
  else if rc = IOT_SOCKET_EAGAIN then SOCKETS_EWOULDBLOCK
  else SOCKETS_SOCKET_ERROR

/-- The answers that a transfer gets: of the socket below, or of the TLS library. -/
structure TransferAns where
  rc : Int
  data : List UInt8
  ssl : List SslAns
  closeNotify : List (List UInt8)

def SOCKETS_Recv (s : Socket) (xBufferLength : Nat) (a : TransferAns) : Option (Socket × Reply) :=
  if s.flags.shutdownRd = false then
    if s.flags.useTls = false then
      some (s, ⟨if a.rc < 0 then transferError a.rc else a.rc,
        a.data.take (min a.rc.toNat xBufferLength), [.socketRecv]⟩)
    else
      match TLS_Recv s.TLS_context a.ssl a.closeNotify with
      | none => none
      | some t =>
        some ({ s with TLS_context := t.pxCtx },
          ⟨if t.xResult < 0 then SOCKETS_TLS_RECV_ERROR else t.xResult,
            t.data.take xBufferLength, t.events⟩)
  else some (s, ⟨SOCKETS_ECLOSED, [], []⟩)

def SOCKETS_Send (s : Socket) (pvBuffer : List UInt8) (a : TransferAns) :
    Option (Socket × Reply) :=
  if s.flags.shutdownWr = false then
    if s.flags.useTls = false then
      some (s, ⟨if a.rc < 0 then transferError a.rc else a.rc, [], [.socketSend pvBuffer]⟩)
    else
      match TLS_Send s.TLS_context pvBuffer a.ssl a.closeNotify with
      | none => none
      | some t =>
        some ({ s with TLS_context := t.pxCtx },
          ⟨if t.xResult < 0 then SOCKETS_TLS_SEND_ERROR else t.xResult, [], t.events⟩)
  else some (s, ⟨SOCKETS_ECLOSED, [], []⟩)

def SOCKETS_Shutdown (s : Socket) (ulHow : Nat) : Socket × Int :=
  if ulHow = SOCKETS_SHUT_RD then
    ({ s with flags := { s.flags with shutdownRd := true } }, SOCKETS_ERROR_NONE)
  else if ulHow = SOCKETS_SHUT_WR then
    ({ s with flags := { s.flags with shutdownWr := true } }, SOCKETS_ERROR_NONE)
  else if ulHow = SOCKETS_SHUT_RDWR then
    ({ s with flags := { s.flags with shutdownRd := true, shutdownWr := true } },
      SOCKETS_ERROR_NONE)
  else (s, SOCKETS_EINVAL)

/-! ## Options -/

/-- The code that `SOCKETS_SetSockOpt` makes of `iotSocketSetOpt`. -/
def setOptError (rc : Int) : Int :=
  if rc = 0 then SOCKETS_ERROR_NONE
  else if rc = IOT_SOCKET_ESOCK then SOCKETS_SOCKET_ERROR
  else if rc = IOT_SOCKET_EINVAL then SOCKETS_EINVAL
  else if rc = IOT_SOCKET_ENOTSUP then SOCKETS_SOCKET_ERROR
  else if rc = IOT_SOCKET_ERROR then SOCKETS_SOCKET_ERROR
  else rc

/-- The answers that `SOCKETS_SetSockOpt` gets. -/
structure SetOptAns where
  iotSocketSetOpt : Int
  pvPortMalloc : Bool

def SOCKETS_SetSockOpt (s : Socket) (lOptionName : Int) (pvOptionValue : List UInt8)
    (a : SetOptAns) : Socket × Int :=
  if lOptionName = SOCKETS_SO_RCVTIMEO then (s, setOptError a.iotSocketSetOpt)
  else if lOptionName = SOCKETS_SO_SNDTIMEO then (s, setOptError a.iotSocketSetOpt)
  else if lOptionName = SOCKETS_SO_NONBLOCK then (s, setOptError a.iotSocketSetOpt)
  else if lOptionName = SOCKETS_SO_REQUIRE_TLS then
    if s.flags.connected = false then
      ({ s with flags := { s.flags with useTls := true } }, SOCKETS_ERROR_NONE)
    else (s, SOCKETS_SOCKET_ERROR)
  else if lOptionName = SOCKETS_SO_TRUSTED_SERVER_CERTIFICATE then
    if s.flags.connected = false then
      if a.pvPortMalloc then
        ({ s with server_cert := some pvOptionValue, server_cert_len := pvOptionValue.length },
          SOCKETS_ERROR_NONE)
      else ({ s with server_cert := none }, SOCKETS_ENOMEM)
    else (s, SOCKETS_SOCKET_ERROR)
  else if lOptionName = SOCKETS_SO_SERVER_NAME_INDICATION then
    if s.flags.connected = false then
      if a.pvPortMalloc then
        ({ s with destination := some (pvOptionValue ++ [0]) }, SOCKETS_ERROR_NONE)
      else ({ s with destination := none }, SOCKETS_ENOMEM)
    else (s, SOCKETS_SOCKET_ERROR)
  else (s, SOCKETS_SOCKET_ERROR)

/-- The code that `SOCKETS_Close` makes of `iotSocketClose`. -/
def closeError (rc : Int) : Int :=
  if rc = 0 then rc
  else if rc = IOT_SOCKET_ESOCK then SOCKETS_SOCKET_ERROR
  else if rc = IOT_SOCKET_EAGAIN then SOCKETS_SOCKET_ERROR
  else SOCKETS_SOCKET_ERROR

/-! ## Runs -/

/-- A call on the socket, with the answers it gets from below. -/
inductive Call
  | setSockOpt (lOptionName : Int) (pvOptionValue : List UInt8) (a : SetOptAns)
  | connect (a : ConnectCallAns)
  | send (pvBuffer : List UInt8) (a : TransferAns)
  | recv (xBufferLength : Nat) (a : TransferAns)
  | shutdown (ulHow : Nat)

def step (s : Socket) : Call → Option (Socket × Reply)
  | .setSockOpt name value a =>
    let (s, rc) := SOCKETS_SetSockOpt s name value a
    some (s, ⟨rc, [], []⟩)
  | .connect a => SOCKETS_Connect s a
  | .send pvBuffer a => SOCKETS_Send s pvBuffer a
  | .recv xBufferLength a => SOCKETS_Recv s xBufferLength a
  | .shutdown ulHow =>
    let (s, rc) := SOCKETS_Shutdown s ulHow
    some (s, ⟨rc, [], []⟩)

/-- The socket as a machine. -/
def socket : Machine Socket Call Reply := ⟨step⟩

end Sockets
