import TrustZone.Lib.Ownership
import TrustZone.Sockets.SecureSockets

/-!
# The blocks of a socket (`iot_secure_sockets.c`)

`SOCKETS_Socket`, `SOCKETS_SetSockOpt` and `SOCKETS_Close` with the memory that they take and give back.
`Sockets.SOCKETS_SetSockOpt` is about a socket whose strings are at hand; here the socket points to them.
There is no connection in between, so that `TLS_context` stays `NULL` and `TLS_Cleanup` does nothing.
-/

namespace Sockets.OnHeap

open Lib

/-- `struct xSOCKET`, in the block `xSocket`. -/
structure SocketBlock where
  xSocket : Nat
  id : Int
  flags : Flags
  destination : Option Nat
  server_cert : Option Nat
  server_cert_len : Nat

def SOCKETS_AF_INET : Int := 2
def SOCKETS_SOCK_STREAM : Int := 1
def SOCKETS_IPPROTO_TCP : Int := 6

/-- `sizeof( struct xSOCKET )`: six words. -/
def sizeofXSocket : Nat := 24

/-- `SOCKETS_Socket`; `none` is `SOCKETS_INVALID_SOCKET`. -/
def SOCKETS_Socket (al : Allocator) (h : Heap) (lDomain lType lProtocol iotSocketCreate : Int) :
    Option (Heap × Option SocketBlock) :=
  if lDomain ≠ SOCKETS_AF_INET ∨ lType ≠ SOCKETS_SOCK_STREAM ∨ lProtocol ≠ SOCKETS_IPPROTO_TCP then
    some (h, none)
  else
    match h.malloc al sizeofXSocket with
    | (none, h) => some (h, none)
    | (some p, h) =>
      if iotSocketCreate ≤ -1 ∧ -16 ≤ iotSocketCreate then (h.free p).map fun h => (h, none)
      else some (h, some ⟨p, iotSocketCreate, ⟨false, false, false, false⟩, none, none, 0⟩)

/-- The bytes at `pvOptionValue`, as many as a `size_t` can say. -/
abbrev OptionValue := {v : List UInt8 // v.length < 2 ^ 32}

/-- The new certificate. The pointer is overwritten first. -/
def setServerCert (al : Allocator) (h : Heap) (s : SocketBlock) (v : OptionValue) :
    Option (Heap × SocketBlock × Int) :=
  match h.malloc al v.val.length with
  | (none, h) => some (h, { s with server_cert := none }, SOCKETS_ENOMEM)
  | (some p, h) =>
    (h.write p v.val).map fun h =>
      (h, { s with server_cert := some p, server_cert_len := v.val.length }, SOCKETS_ERROR_NONE)

/-- The new name, with its terminator behind it. `xOptionLength + 1U` is a word. -/
def setDestination (al : Allocator) (h : Heap) (s : SocketBlock) (v : OptionValue) :
    Option (Heap × SocketBlock × Int) :=
  match h.malloc al ((v.val.length + 1) % 2 ^ 32) with
  | (none, h) => some (h, { s with destination := none }, SOCKETS_ENOMEM)
  | (some p, h) =>
    (h.write p (v.val ++ [0])).map fun h => (h, { s with destination := some p }, SOCKETS_ERROR_NONE)

def SOCKETS_SetSockOpt (al : Allocator) (h : Heap) (s : SocketBlock) (lOptionName : Int)
    (v : OptionValue) (iotSocketSetOpt : Int) : Option (Heap × SocketBlock × Int) :=
  if lOptionName = SOCKETS_SO_RCVTIMEO then some (h, s, setOptError iotSocketSetOpt)
  else if lOptionName = SOCKETS_SO_SNDTIMEO then some (h, s, setOptError iotSocketSetOpt)
  else if lOptionName = SOCKETS_SO_NONBLOCK then some (h, s, setOptError iotSocketSetOpt)
  else if lOptionName = SOCKETS_SO_REQUIRE_TLS then
    if s.flags.connected = false then
      some (h, { s with flags := { s.flags with useTls := true } }, SOCKETS_ERROR_NONE)
    else some (h, s, SOCKETS_SOCKET_ERROR)
  else if lOptionName = SOCKETS_SO_TRUSTED_SERVER_CERTIFICATE then
    if s.flags.connected = false then setServerCert al h s v
    else some (h, s, SOCKETS_SOCKET_ERROR)
  else if lOptionName = SOCKETS_SO_SERVER_NAME_INDICATION then
    if s.flags.connected = false then setDestination al h s v
    else some (h, s, SOCKETS_SOCKET_ERROR)
  else some (h, s, SOCKETS_SOCKET_ERROR)

/-- `SSOCK_FREE`, unless the pointer is `NULL`. -/
def freeUnlessNull (h : Heap) : Option Nat → Option Heap
  | none => some h
  | some p => h.free p

def SOCKETS_Close (h : Heap) (s : SocketBlock) (iotSocketClose : Int) : Option (Heap × Int) := do
  let rc := closeError iotSocketClose
  let h ← freeUnlessNull h s.server_cert
  let h ← freeUnlessNull h s.destination
  let h ← h.free s.xSocket
  return (h, rc)

/-! ## Runs -/

/-- The heap, and the socket as long as it is open. -/
structure State where
  heap : Heap
  socket : Option SocketBlock

/-- A call on the socket, with what the layer below answers. -/
inductive Op
  | setSockOpt (lOptionName : Int) (v : OptionValue) (iotSocketSetOpt : Int)
  | close (iotSocketClose : Int)

def step (al : Allocator) (s : State) (op : Op) : Option (State × Int) :=
  match s.socket with
  | none => none
  | some b =>
    match op with
    | .setSockOpt lOptionName v iotSocketSetOpt =>
      (SOCKETS_SetSockOpt al s.heap b lOptionName v iotSocketSetOpt).map fun (h, b, rc) => (⟨h, some b⟩, rc)
    | .close iotSocketClose => (SOCKETS_Close s.heap b iotSocketClose).map fun (h, rc) => (⟨h, none⟩, rc)

/-- The calls on a socket that was created. -/
def calls (al : Allocator) : Machine State Op Int := ⟨step al⟩

end Sockets.OnHeap
