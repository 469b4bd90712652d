import TrustZone.Sockets.IotSocket

/-!
# The FreeRTOS+TCP socket (`iot_socket.c`)

The same API over FreeRTOS+TCP, whose functions answer freely. An address at a pointer `ip` is the word that
its four bytes are in memory, which is also what `FreeRTOS_inet_addr_quick` makes of them. The bytes that are
sent and received are left out: `buf` says whether the pointer is not `NULL`.
-/

namespace Sockets.FreeRTOSTcp

/-! ## Codes -/

def IOT_SOCKET_ENOMEM : Int := -5
def IOT_SOCKET_ETIMEDOUT : Int := -8
def IOT_SOCKET_ECONNREFUSED : Int := -11
def IOT_SOCKET_EHOSTNOTFOUND : Int := -16

def IOT_SOCKET_AF_INET : Int := 1
def IOT_SOCKET_SOCK_STREAM : Int := 1
def IOT_SOCKET_SOCK_DGRAM : Int := 2
def IOT_SOCKET_IPPROTO_TCP : Int := 1
def IOT_SOCKET_SO_TYPE : Int := 5

def FREERTOS_AF_INET : Int := 2
def FREERTOS_SOCK_STREAM : Int := 1
def FREERTOS_SOCK_DGRAM : Int := 2
def FREERTOS_IPPROTO_TCP : Int := 6
def FREERTOS_IPPROTO_UDP : Int := 17
def FREERTOS_INVALID_SOCKET : BitVec 32 := BitVec.allOnes 32
def portMAX_DELAY : BitVec 32 := BitVec.allOnes 32

def pdFREERTOS_ERRNO_EINTR : Int := 4
def pdFREERTOS_ERRNO_EBADF : Int := 9
def pdFREERTOS_ERRNO_EAGAIN : Int := 11
def pdFREERTOS_ERRNO_EWOULDBLOCK : Int := 11
def pdFREERTOS_ERRNO_ENOMEM : Int := 12
def pdFREERTOS_ERRNO_EINVAL : Int := 22
def pdFREERTOS_ERRNO_ENOSPC : Int := 28
def pdFREERTOS_ERRNO_EOPNOTSUPP : Int := 95
def pdFREERTOS_ERRNO_ETIMEDOUT : Int := 116
def pdFREERTOS_ERRNO_EINPROGRESS : Int := 119
def pdFREERTOS_ERRNO_EISCONN : Int := 127
def pdFREERTOS_ERRNO_ENOTCONN : Int := 128

/-- `struct freertos_sockaddr`. -/
structure SockAddr where
  sin_addr : BitVec 32
  sin_port : BitVec 16

/-- Also `FreeRTOS_ntohs`. -/
def FreeRTOS_htons (usIn : BitVec 16) : BitVec 16 := usIn <<< 8 ||| usIn >>> 8

/-- What a function leaves: `stat`, which is `none` as long as nothing was stored there, and what
FreeRTOS+TCP answered last, which is `none` if it was not asked. -/
structure Outcome where
  stat : Option Int
  answer : Option Int
  deriving DecidableEq

/-- Refused before FreeRTOS+TCP is asked. -/
def Outcome.refused (stat : Int) : Outcome := ⟨some stat, none⟩

/-- What is at the pointers `ip`, `ip_len` and `port`, those that are not `NULL`. -/
structure Name where
  ip : Option (BitVec 32)
  ip_len : Option (BitVec 32)
  port : Option (BitVec 16)

/-! ## Opening -/

/-- The type and the protocol that `iotSocketCreate` asks for. The protocol is found from the type too:
the two names it compares with are one number. -/
def xType (type : Int) : Int :=
  if type = IOT_SOCKET_SOCK_STREAM then FREERTOS_SOCK_STREAM else FREERTOS_SOCK_DGRAM

def xProtocol (type : Int) : Int :=
  if type = IOT_SOCKET_IPPROTO_TCP then FREERTOS_IPPROTO_TCP else FREERTOS_IPPROTO_UDP

/-- With what `FreeRTOS_socket` is called with, if it is. -/
def iotSocketCreate (FreeRTOS_socket : Int → Int → Int → BitVec 32) (af type _protocol : Int) :
    Outcome × Option (Int × Int × Int) :=
  if af ≠ IOT_SOCKET_AF_INET then (.refused IOT_SOCKET_ENOTSUP, none)
  else
    let xSocket := FreeRTOS_socket FREERTOS_AF_INET (xType type) (xProtocol type)
    let socket := if xSocket ≠ FREERTOS_INVALID_SOCKET then xSocket.toInt else IOT_SOCKET_ENOMEM
    (⟨some socket, some xSocket.toNat⟩, some (FREERTOS_AF_INET, xType type, xProtocol type))

/-- The length that is passed on is that of a pointer. -/
def iotSocketBind (FreeRTOS_bind : Int → SockAddr → Nat → Int) (socket : Int) (ip : Option (BitVec 32))
    (ip_len : BitVec 32) (port : BitVec 16) : Outcome :=
  match ip with
  | none => .refused IOT_SOCKET_EINVAL
  | some sin_addr =>
    if ip_len ≠ 4 ∨ port = 0 then .refused IOT_SOCKET_EINVAL
    else
      let rval := FreeRTOS_bind socket ⟨sin_addr, FreeRTOS_htons port⟩ 4
      let stat :=
        if rval = 0 then 0
        else if rval = -pdFREERTOS_ERRNO_EINVAL then IOT_SOCKET_EINVAL
        else IOT_SOCKET_ERROR
      ⟨some stat, some rval⟩

/-- `stat` has no value at first, and no last branch gives it one. -/
def iotSocketListen (FreeRTOS_listen : Int → Int → Int) (socket backlog : Int) : Outcome :=
  let rval := FreeRTOS_listen socket backlog
  let stat :=
    if rval = 0 then some 0
    else if rval = -pdFREERTOS_ERRNO_EOPNOTSUPP then some IOT_SOCKET_ENOTSUP
    else none
  ⟨stat, some rval⟩

/-- The address is copied where there is room for it. -/
def Name.copyIp (n : Name) (sin_addr : BitVec 32) : Name :=
  match n.ip, n.ip_len with
  | some _, some ip_len => if 4 ≤ ip_len.toNat then { n with ip := some sin_addr } else n
  | some _, none | none, some _ | none, none => n

def iotSocketAccept (FreeRTOS_accept : Int → BitVec 32 × SockAddr) (socket : Int) (n : Name) :
    Outcome × Name :=
  let (xAccept, xAddress) := FreeRTOS_accept socket
  if xAccept = 0 then (⟨some IOT_SOCKET_EAGAIN, some xAccept.toNat⟩, n)
  else if xAccept = FREERTOS_INVALID_SOCKET then (⟨some IOT_SOCKET_EINVAL, some xAccept.toNat⟩, n)
  else
    let copied := n.copyIp xAddress.sin_addr
    let copied := { copied with
      ip_len := copied.ip_len.map fun ip_len =>
        if n.ip.isSome ∧ 4 ≤ ip_len.toNat then 4 else ip_len
      port := copied.port.map fun _ => FreeRTOS_htons xAddress.sin_port }
    (⟨some xAccept.toInt, some xAccept.toNat⟩, copied)

def iotSocketConnect (FreeRTOS_connect : Int → SockAddr → Nat → Int) (socket : Int)
    (ip : Option (BitVec 32)) (_ip_len : BitVec 32) (port : BitVec 16) : Outcome :=
  match ip with
  | none => .refused IOT_SOCKET_EINVAL
  | some sin_addr =>
    if port = 0 then .refused IOT_SOCKET_EINVAL
    else
      let rval := FreeRTOS_connect socket ⟨sin_addr, FreeRTOS_htons port⟩ 8
      let stat :=
        if rval = 0 then 0
        else if rval = -pdFREERTOS_ERRNO_EBADF then IOT_SOCKET_ESOCK
        else if rval = -pdFREERTOS_ERRNO_EISCONN then IOT_SOCKET_EISCONN
        else if rval = -pdFREERTOS_ERRNO_EINPROGRESS then IOT_SOCKET_EALREADY
        else if rval = -pdFREERTOS_ERRNO_EAGAIN then IOT_SOCKET_ECONNABORTED
        else if rval = -pdFREERTOS_ERRNO_EWOULDBLOCK then IOT_SOCKET_ECONNABORTED
        else if rval = -pdFREERTOS_ERRNO_ETIMEDOUT then IOT_SOCKET_ETIMEDOUT
        else IOT_SOCKET_EINVAL
      ⟨some stat, some rval⟩

/-! ## Transfers -/

/-- The branches for a length of 0, with `FreeRTOS_recvcount` or `FreeRTOS_maywrite`. -/
def countReady (ready : Int → Int) (socket : Int) : Outcome :=
  let rval := ready socket
  let stat := if rval = -pdFREERTOS_ERRNO_EINVAL then IOT_SOCKET_EINVAL else rval
  ⟨some stat, some rval⟩

def iotSocketRecv (FreeRTOS_recvcount : Int → Int) (FreeRTOS_recv : Int → BitVec 32 → Int) (socket : Int)
    (buf : Bool) (len : BitVec 32) : Outcome :=
  if len = 0 then countReady FreeRTOS_recvcount socket
  else if !buf then .refused IOT_SOCKET_EINVAL
  else
    let rval := FreeRTOS_recv socket len
    let stat :=
      if rval = -pdFREERTOS_ERRNO_ENOMEM then IOT_SOCKET_ERROR
      else if rval = -pdFREERTOS_ERRNO_ENOTCONN then IOT_SOCKET_ENOTCONN
      else if rval = -pdFREERTOS_ERRNO_EINTR then IOT_SOCKET_ECONNABORTED
      else if rval = -pdFREERTOS_ERRNO_EINVAL then IOT_SOCKET_ESOCK
      else rval
    ⟨some stat, some rval⟩

/-- `none` where a pointer that is `NULL` is read: `ip` and `port` are read, and nothing is stored there. -/
def iotSocketRecvFrom (FreeRTOS_recvcount : Int → Int) (FreeRTOS_recvfrom : Int → BitVec 32 → SockAddr → Int)
    (socket : Int) (buf : Bool) (len : BitVec 32) (n : Name) : Option Outcome :=
  if len = 0 then some (countReady FreeRTOS_recvcount socket)
  else if !buf then some (.refused IOT_SOCKET_EINVAL)
  else
    match n.ip, n.port with
    | some sin_addr, some port =>
      let rval := FreeRTOS_recvfrom socket len ⟨sin_addr, FreeRTOS_htons port⟩
      let stat :=
        if rval = -pdFREERTOS_ERRNO_EWOULDBLOCK then IOT_SOCKET_EAGAIN
        else if rval = -pdFREERTOS_ERRNO_EINVAL then IOT_SOCKET_ENOTCONN
        else if rval = -pdFREERTOS_ERRNO_EINTR then IOT_SOCKET_ECONNABORTED
        else rval
      some ⟨some stat, some rval⟩
    | some _, none | none, some _ | none, none => none

def iotSocketSend (FreeRTOS_maywrite : Int → Int) (FreeRTOS_send : Int → BitVec 32 → Int) (socket : Int)
    (buf : Bool) (len : BitVec 32) : Outcome :=
  if len = 0 then countReady FreeRTOS_maywrite socket
  else if !buf then .refused IOT_SOCKET_EINVAL
  else
    let rval := FreeRTOS_send socket len
    let stat :=
      if rval = -pdFREERTOS_ERRNO_ENOTCONN then IOT_SOCKET_ENOTCONN
      else if rval = -pdFREERTOS_ERRNO_ENOMEM then IOT_SOCKET_ERROR
      else if rval = -pdFREERTOS_ERRNO_EINVAL then IOT_SOCKET_ESOCK
      else if rval = -pdFREERTOS_ERRNO_ENOSPC then IOT_SOCKET_ECONNABORTED
      else rval
    ⟨some stat, some rval⟩

/-- The number of bytes that were queued, which is 0 on an error too. -/
def iotSocketSendTo (FreeRTOS_maywrite : Int → Int) (FreeRTOS_sendto : Int → BitVec 32 → SockAddr → Int)
    (socket : Int) (buf : Bool) (len : BitVec 32) (ip : Option (BitVec 32)) (_ip_len : BitVec 32)
    (port : BitVec 16) : Option Outcome :=
  if len = 0 then some (countReady FreeRTOS_maywrite socket)
  else if !buf then some (.refused IOT_SOCKET_EINVAL)
  else
    match ip with
    | none => none
    | some sin_addr =>
      let rval := FreeRTOS_sendto socket len ⟨sin_addr, FreeRTOS_htons port⟩
      some ⟨some rval, some rval⟩

/-! ## Names -/

/-- `(ip != NULL) && (*ip_len < sizeof(sin_addr))`. -/
def Name.short (n : Name) : Option Bool :=
  match n.ip with
  | none => some false
  | some _ => n.ip_len.map fun ip_len => ip_len.toNat < 4

/-- `*port` is compared with `NULL`, where `port` is meant. -/
def Name.copyPort (n : Name) (sin_port : BitVec 16) : Option Name :=
  n.port.map fun port => if port ≠ 0 then { n with port := some (FreeRTOS_htons sin_port) } else n

/-- What `FreeRTOS_GetLocalAddress` returns, the size of the address, is not looked at. -/
def iotSocketGetSockName (FreeRTOS_GetLocalAddress : Int → SockAddr) (socket : Int) (n : Name) :
    Option (Outcome × Name) := do
  if ← n.short then return (.refused IOT_SOCKET_EINVAL, n)
  let xAddress := FreeRTOS_GetLocalAddress socket
  let n ← (n.copyIp xAddress.sin_addr).copyPort xAddress.sin_port
  return (⟨some 0, some 0⟩, n)

def iotSocketGetPeerName (FreeRTOS_GetRemoteAddress : Int → Int × SockAddr) (socket : Int) (n : Name) :
    Option (Outcome × Name) := do
  if ← n.short then return (.refused IOT_SOCKET_EINVAL, n)
  let (rval, xAddress) := FreeRTOS_GetRemoteAddress socket
  if rval = -pdFREERTOS_ERRNO_EINVAL then return (⟨some IOT_SOCKET_ESOCK, some rval⟩, n)
  let n ← (n.copyIp xAddress.sin_addr).copyPort xAddress.sin_port
  return (⟨some 0, some rval⟩, n)

/-! ## Options -/

/-- Nothing is stored at `opt_val`, which says whether the pointer is not `NULL`. -/
def iotSocketGetOpt (FreeRTOS_issocketconnected : Int → Int) (socket opt_id : Int) (opt_val : Bool)
    (opt_len : Option (BitVec 32)) : Outcome :=
  if !opt_val ∨ opt_len = none ∨ opt_len = some 0 then .refused IOT_SOCKET_EINVAL
  else if opt_id = IOT_SOCKET_SO_RCVTIMEO then .refused IOT_SOCKET_ENOTSUP
  else if opt_id = IOT_SOCKET_SO_SNDTIMEO then .refused IOT_SOCKET_ENOTSUP
  else if opt_id = IOT_SOCKET_SO_KEEPALIVE then .refused IOT_SOCKET_ENOTSUP
  else if opt_id = IOT_SOCKET_SO_TYPE then
    let rval := FreeRTOS_issocketconnected socket
    let stat := if rval = -pdFREERTOS_ERRNO_EINVAL then IOT_SOCKET_SOCK_DGRAM else IOT_SOCKET_SOCK_STREAM
    ⟨some stat, some rval⟩
  else .refused IOT_SOCKET_EINVAL

/-- `FREERTOS_SO_RCVTIMEO` and `FREERTOS_SO_SNDTIMEO`. -/
inductive TimeoutOpt
  | rcv
  | snd

/-- The timeouts of a socket, in ticks. -/
structure Timeouts where
  rcv : BitVec 32
  snd : BitVec 32

/-- What `FreeRTOS_setsockopt` does to them: it sets one and answers 0, or it answers something else. -/
def Timeouts.set (t : Timeouts) (opt : TimeoutOpt) (xTimeout : BitVec 32) (rval : Int) : Timeouts :=
  if rval ≠ 0 then t
  else
    match opt with
    | .rcv => { t with rcv := xTimeout }
    | .snd => { t with snd := xTimeout }

/-- A call on the socket waits. -/
def Timeouts.Blocking (t : Timeouts) : Prop := t.rcv ≠ 0 ∧ t.snd ≠ 0

/-- The word at a pointer. -/
def wordAt (bytes : Nat → BitVec 8) : BitVec 32 := bytes 3 ++ bytes 2 ++ bytes 1 ++ bytes 0

/-- What `iotSocketSetOpt` leaves, with the number of bytes that `memcpy` stored from `&xTimeout` on. -/
structure SetOptRun where
  outcome : Outcome
  copied : Nat
  timeouts : Timeouts

/-- `IOT_SOCKET_IO_FIONBIO`: both timeouts are set to 0, whatever the option's value is. -/
def setNonblocking (FreeRTOS_setsockopt : Int → TimeoutOpt → BitVec 32 → Int) (socket : Int)
    (opt_len : BitVec 32) (t : Timeouts) : SetOptRun :=
  if opt_len ≠ 4 then ⟨.refused IOT_SOCKET_EINVAL, 0, t⟩
  else
    let rval := FreeRTOS_setsockopt socket .rcv 0
    let t := t.set .rcv 0 rval
    let (rval, t) :=
      if rval = 0 then
        let rval := FreeRTOS_setsockopt socket .snd 0
        (rval, t.set .snd 0 rval)
      else (rval, t)
    let stat := if rval = -pdFREERTOS_ERRNO_EINVAL then IOT_SOCKET_EINVAL else 0
    ⟨⟨some stat, some rval⟩, 0, t⟩

/-- The timeout that is set: of a short option the other bytes are those that were in `xTimeout`, and 0 is
to wait forever. -/
def timeoutTicks (opt_val : Nat → BitVec 8) (opt_len : BitVec 32) (xTimeout : Nat → BitVec 8) : BitVec 32 :=
  let xTimeout := wordAt fun i => if i < opt_len.toNat then opt_val i else xTimeout i
  if xTimeout = 0 then portMAX_DELAY else xTimeout

/-- `IOT_SOCKET_SO_RCVTIMEO` and `IOT_SOCKET_SO_SNDTIMEO`. -/
def setTimeout (FreeRTOS_setsockopt : Int → TimeoutOpt → BitVec 32 → Int) (socket : Int) (opt : TimeoutOpt)
    (opt_val : Nat → BitVec 8) (opt_len : BitVec 32) (xTimeout : Nat → BitVec 8) (t : Timeouts) : SetOptRun :=
  let xTimeout := timeoutTicks opt_val opt_len xTimeout
  let rval := FreeRTOS_setsockopt socket opt xTimeout
  let stat := if rval = -pdFREERTOS_ERRNO_EINVAL then IOT_SOCKET_EINVAL else 0
  ⟨⟨some stat, some rval⟩, opt_len.toNat, t.set opt xTimeout rval⟩

def iotSocketSetOpt (FreeRTOS_setsockopt : Int → TimeoutOpt → BitVec 32 → Int) (socket opt_id : Int)
    (opt_val : Option (Nat → BitVec 8)) (opt_len : BitVec 32) (xTimeout : Nat → BitVec 8) (t : Timeouts) :
    SetOptRun :=
  match opt_val with
  | none => ⟨.refused IOT_SOCKET_EINVAL, 0, t⟩
  | some opt_val =>
    if opt_len = 0 then ⟨.refused IOT_SOCKET_EINVAL, 0, t⟩
    else if opt_id = IOT_SOCKET_IO_FIONBIO then setNonblocking FreeRTOS_setsockopt socket opt_len t
    else if opt_id = IOT_SOCKET_SO_RCVTIMEO then
      setTimeout FreeRTOS_setsockopt socket .rcv opt_val opt_len xTimeout t
    else if opt_id = IOT_SOCKET_SO_SNDTIMEO then
      setTimeout FreeRTOS_setsockopt socket .snd opt_val opt_len xTimeout t
    else if opt_id = IOT_SOCKET_SO_KEEPALIVE then ⟨.refused IOT_SOCKET_ENOTSUP, 0, t⟩
    else ⟨.refused IOT_SOCKET_EINVAL, 0, t⟩

/-! ## Closing, and names of hosts -/

def iotSocketClose (FreeRTOS_closesocket : Int → Int) (socket : Int) : Outcome :=
  let rval := FreeRTOS_closesocket socket
  let stat :=
    if rval = 0 then IOT_SOCKET_ESOCK
    else if rval = -1 then IOT_SOCKET_EAGAIN
    else 0
  ⟨some stat, some rval⟩

/-- With what is at `ip` afterwards. -/
def iotSocketGetHostByName (FreeRTOS_gethostbyname : String → BitVec 32) (name : Option String) (af : Int)
    (ip ip_len : Option (BitVec 32)) : Outcome × Option (BitVec 32) :=
  match name, ip, ip_len with
  | some name, some _, some ip_len =>
    if af ≠ IOT_SOCKET_AF_INET then (.refused IOT_SOCKET_ENOTSUP, ip)
    else if ip_len.toNat < 4 then (.refused IOT_SOCKET_EINVAL, ip)
    else
      let addr := FreeRTOS_gethostbyname name
      if addr ≠ 0 then (⟨some 0, some addr.toNat⟩, some addr)
      else (⟨some IOT_SOCKET_EHOSTNOTFOUND, some addr.toNat⟩, ip)
  | none, _, _ | some _, none, _ | some _, some _, none => (.refused IOT_SOCKET_EINVAL, ip)

end Sockets.FreeRTOSTcp
