import Mathlib.Algebra.Group.Nat.Defs
import TrustZone.Sockets.SecureSockets

/-!
# The virtual socket (`iot_socket.c`)

The attributes of the sockets, and the two functions that receive. A blocking call is simulated: the device
is asked every 10 ms until it has an answer or the time is over. The device answers freely.
-/

namespace Sockets

/-- `NUM_SOCKS`. -/
abbrev NUM_SOCKS : Nat := 64

/-- An entry of `sock_attr`: two bit-fields. -/
structure SockAttr where
  ionbio : BitVec 1
  to_msec : BitVec 31

/-- `sock_attr`. -/
abbrev SockAttrs := Fin NUM_SOCKS → SockAttr

def IOT_SOCKET_IO_FIONBIO : Int := 1
def IOT_SOCKET_SO_RCVTIMEO : Int := 2
def IOT_SOCKET_SO_SNDTIMEO : Int := 3
def IOT_SOCKET_SO_KEEPALIVE : Int := 4

/-- The index that a socket is, if it is one. -/
def sockIndex (socket : Int) : Option (Fin NUM_SOCKS) :=
  if h : 0 ≤ socket ∧ socket < NUM_SOCKS then some ⟨socket.toNat, by omega⟩ else none

/-- `iotSocketSetOpt`, where `opt_val` is the word at the pointer and `device` what the device answers. -/
def iotSocketSetOpt (sock_attr : SockAttrs) (socket opt_id : Int) (opt_val : BitVec 32) (opt_len : Nat)
    (device : Int) : Int × SockAttrs :=
  match sockIndex socket with
  | none => (IOT_SOCKET_EINVAL, sock_attr)
  | some i =>
    if opt_id = IOT_SOCKET_IO_FIONBIO then
      if opt_len ≠ 4 then (IOT_SOCKET_EINVAL, sock_attr)
      else
        let ionbio := if opt_val ≠ 0 then 1 else 0
        (0, Function.update sock_attr i { sock_attr i with ionbio := ionbio })
    else if opt_id = IOT_SOCKET_SO_RCVTIMEO then
      (0, Function.update sock_attr i { sock_attr i with to_msec := opt_val.setWidth 31 })
    else if opt_id = IOT_SOCKET_SO_SNDTIMEO then (0, sock_attr)
    else if opt_id = IOT_SOCKET_SO_KEEPALIVE then (device, sock_attr)
    else (IOT_SOCKET_EINVAL, sock_attr)

/-- `vSocketRecvIO_t` without `ret_val` and the buffer. -/
structure RecvIO where
  socket : Int
  len : BitVec 32

/-- `vSocketRecvFromIO_t` without `ret_val` and the buffers; `ip_len` is `*ip_len`, if there is one. -/
structure RecvFromIO extends RecvIO where
  ip_len : Option (BitVec 32)

/-- What a call leaves: `io.ret_val`, which is `none` as long as nothing was stored there, and how often the
device was asked. -/
structure RecvRun where
  ret_val : Option Int
  polls : Nat
  deriving DecidableEq

/-- The loop of a blocking call. The device answers `device n` when it is asked for the `n`-th time. -/
def recvLoop (len : BitVec 32) (device : Nat → Int) : Nat → RecvRun → RecvRun
  | 0, run => run
  | delay + 1, run =>
    let ret_val := device run.polls
    let ret_val := if ret_val = 0 ∧ len ≠ 0 then IOT_SOCKET_EAGAIN else ret_val
    let run := ⟨some ret_val, run.polls + 1⟩
    if ret_val ≠ IOT_SOCKET_EAGAIN then run else recvLoop len device delay run

/-- The body of the two functions: once in non-blocking mode, else the loop. -/
def receive (attr : SockAttr) (len : BitVec 32) (device : Nat → Int) : RecvRun :=
  if attr.ionbio ≠ 0 then ⟨some (device 0), 1⟩
  else
    let delay := (attr.to_msec.setWidth 32 + 9#32) / 10#32
    recvLoop len device delay.toNat ⟨none, 0⟩

/-- `iotSocketRecv`. -/
def iotSocketRecv (sock_attr : SockAttrs) (io : RecvIO) (device : RecvIO → Nat → Int) : RecvRun :=
  match sockIndex io.socket with
  | none => ⟨some IOT_SOCKET_EINVAL, 0⟩
  | some i => receive (sock_attr i) io.len (device io)

/-- `iotSocketRecvFrom`. -/
def iotSocketRecvFrom (sock_attr : SockAttrs) (io : RecvFromIO) (device : RecvFromIO → Nat → Int) :
    RecvRun :=
  match sockIndex io.socket with
  | none => ⟨some IOT_SOCKET_EINVAL, 0⟩
  | some i => receive (sock_attr i) io.len (device io)

end Sockets
